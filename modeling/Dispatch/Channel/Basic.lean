import Dispatch.Storage.Policy

namespace Dispatch

open Storage

structure InputDescriptor where
  name : Option String := none
  source : String
  destination : String
  dataType : DataType := default
  inputMode : InputMode := default
  downloadMode : DownloadMode := default
  distribution : Distribution := default
  compression : Option Compression := none
  deriving DecidableEq, Repr

structure OutputDescriptor where
  name : Option String := none
  source : String
  destination : String
  encryptionKey : Option String := none
  uploadMode : UploadMode := default
  deriving DecidableEq, Repr

inductive Channel (D : Type) where
  | path (p : String)
  | descriptor (d : D)
  deriving DecidableEq, Repr

namespace InputDescriptor

def withName (d : InputDescriptor) (name : String) : InputDescriptor := { d with name := some name }

def withDataType (d : InputDescriptor) (t : DataType) : InputDescriptor := { d with dataType := t }

def withInputMode (d : InputDescriptor) (m : InputMode) : InputDescriptor := { d with inputMode := m }

def withDownloadMode (d : InputDescriptor) (m : DownloadMode) : InputDescriptor :=
  { d with downloadMode := m }

def withDistribution (d : InputDescriptor) (s : Distribution) : InputDescriptor :=
  { d with distribution := s }

def withCompression (d : InputDescriptor) (c : Compression) : InputDescriptor :=
  { d with compression := some c }

/-- Compressed data can only be streamed. -/
def IsConsistent (d : InputDescriptor) : Prop :=
  d.compression = some .gzip → d.inputMode = .pipe

instance (d : InputDescriptor) : Decidable d.IsConsistent := inferInstanceAs (Decidable (_ → _))

def label (d : InputDescriptor) : String := d.name.getD d.source

end InputDescriptor

namespace OutputDescriptor

def withName (d : OutputDescriptor) (name : String) : OutputDescriptor := { d with name := some name }

def withEncryptionKey (d : OutputDescriptor) (key : String) : OutputDescriptor :=
  { d with encryptionKey := some key }

def withUploadMode (d : OutputDescriptor) (m : UploadMode) : OutputDescriptor :=
  { d with uploadMode := m }

end OutputDescriptor

namespace Channel

variable {D : Type}

def descriptor? : Channel D → Option D
  | .path _ => none
  | .descriptor d => some d

def isDescriptor (c : Channel D) : Bool := c.descriptor?.isSome

end Channel

end Dispatch
