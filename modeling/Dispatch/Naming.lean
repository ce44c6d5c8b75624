import Dispatch.Configuration
import Dispatch.Time.Written
import Dispatch.Text.Split

namespace Dispatch.Naming

open Text Time

def maxLength : Nat := 63

/-- The name in an image reference `[path/]name[:tag][@digest]`; a reference without one is its own
base. -/
def imageName (image : List Char) : List Char :=
  match before ':' (afterLast '/' (before '@' image)) with
  | [] => image
  | name => name

/-- As much of the base as fits in front of a dash and the time stamp. -/
def stamped (base : List Char) (t : Instant) : List Char :=
  base.take (maxLength - (t.stamp.length + 1)) ++ '-' :: t.stamp

def baseOfImage (image : String) : String := String.ofList (imageName image.toList)

def generate (base : String) (t : Instant) : String := String.ofList (stamped base.toList t)

def base (c : Configuration) : String :=
  match c.baseJobName with
  | some b => if b = "" then baseOfImage c.image else b
  | none => baseOfImage c.image

end Dispatch.Naming
