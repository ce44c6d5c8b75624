import Dispatch.Json.Printer
import Dispatch.Json.Reader

namespace Dispatch.Json

open Text

/-- What may stand behind a value: nothing, a comma, or what closes an array or an object. -/
def Closes (rest : List Char) : Prop := ∀ c ∈ rest.head?, c = ',' ∨ c = ']' ∨ c = '}'

def EndsDigits (rest : List Char) : Prop := ∀ c ∈ rest.head?, c.isDigit = false

theorem closes_cons {c : Char} (h : c = ',' ∨ c = ']' ∨ c = '}') (rest : List Char) :
    Closes (c :: rest) := by
  rintro x hx
  cases hx
  exact h

theorem endsDigits_cons {c : Char} (h : c.isDigit = false) (rest : List Char) :
    EndsDigits (c :: rest) := by
  rintro x hx
  cases hx
  exact h

theorem Closes.endsDigits {rest : List Char} (h : Closes rest) : EndsDigits rest := by
  intro c hc
  rcases h c hc with rfl | rfl | rfl <;> decide

theorem digits_append {ds rest : List Char} (hds : ∀ c ∈ ds, c.isDigit = true) (hrest : EndsDigits rest) :
    digits (ds ++ rest) = (ds, rest) := by
  rw [digits, List.takeWhile_append_of_pos hds, List.dropWhile_append_of_pos hds]
  cases rest with
  | nil => simp
  | cons c rest => simp [hrest c rfl]

theorem isDigit_toDigits {n : Nat} {c : Char} (h : c ∈ Nat.toDigits 10 n) : c.isDigit = true :=
  Nat.isDigit_of_mem_toDigits (by decide) (by decide) h

theorem toDigits_cons (n : Nat) :
    ∃ c ds, Nat.toDigits 10 n = c :: ds ∧ c.isDigit = true ∧ (n ≠ 0 → c ≠ '0') := by
  obtain ⟨c, ds, hds⟩ := List.exists_cons_of_ne_nil (Nat.toDigits_ne_nil (n := n) (b := 10))
  refine ⟨c, ds, hds, isDigit_toDigits (n := n) (hds ▸ List.mem_cons_self), ?_⟩
  induction n using Nat.strongRecOn generalizing c ds with
  | ind n ih =>
      intro hn
      by_cases hlt : n < 10
      · rw [Nat.toDigits_of_lt_base hlt] at hds
        have hall : ∀ d : Fin 10, d.val ≠ 0 → d.val.digitChar ≠ '0' := by decide
        rw [← (List.cons.inj hds).1]
        exact hall ⟨n, hlt⟩ hn
      · -- all digits but the last are those of a tenth of the number
        obtain ⟨c', ds', hds'⟩ := List.exists_cons_of_ne_nil (Nat.toDigits_ne_nil (n := n / 10) (b := 10))
        rw [Nat.toDigits_of_base_le (by decide) (by omega), hds'] at hds
        rw [← (List.cons.inj hds).1]
        exact ih (n / 10) (by omega) c' ds' hds' (by omega)

theorem digits_toDigits (n : Nat) {rest : List Char} (h : EndsDigits rest) :
    digits (Nat.toDigits 10 n ++ rest) = (Nat.toDigits 10 n, rest) :=
  digits_append (fun _ hc => isDigit_toDigits hc) h

theorem value_toDigits (n : Nat) : value (Nat.toDigits 10 n) = n := Nat.ofDigitChars_ten_toDigits

theorem readMagnitude_toDigits (n : Nat) {rest : List Char} (h : EndsDigits rest) :
    readMagnitude (Nat.toDigits 10 n ++ rest) = some (n, rest) := by
  by_cases hn : n = 0
  · subst hn
    cases rest with
    | nil => rfl
    | cons c rest =>
        have hc := h c rfl
        simp [readMagnitude, hc]
  · obtain ⟨c, ds, hds, -, hc⟩ := toDigits_cons n
    have hread := digits_toDigits n h
    have hvalue := value_toDigits n
    rw [hds] at hread hvalue ⊢
    unfold readMagnitude
    split
    · next heq => exact absurd (List.cons.inj heq).1 (hc hn)
    · rw [hread]
      simp only [hvalue]

def Number.IsWritten : Number → Prop
  | .integer _ _ => True
  | .decimal _ _ fraction _ => ∀ c ∈ fraction, c.isDigit = true

theorem readFraction_of_ne {c : Char} (h : c ≠ '.') (rest : List Char) :
    readFraction (c :: rest) = some (none, c :: rest) := by
  unfold readFraction
  split
  · next heq => exact absurd (List.cons.inj heq).1 h
  · rfl

theorem readFraction_print {fraction : List Char} (h : ∀ c ∈ fraction, c.isDigit = true) {rest : List Char}
    (hrest : EndsDigits ('e' :: rest)) : readFraction (printFraction fraction ++ 'e' :: rest) =
      some (if fraction = [] then none else some fraction, 'e' :: rest) := by
  cases fraction with
  | nil => exact readFraction_of_ne (by decide) rest
  | cons d ds =>
      have hread := digits_append h hrest
      rw [printFraction, if_neg (List.cons_ne_nil d ds), if_neg (List.cons_ne_nil d ds), List.cons_append]
      unfold readFraction
      simp only [hread]

theorem readExponent_print (e : Int) {rest : List Char} (h : EndsDigits rest) :
    readExponent ('e' :: (printInt e ++ rest)) = some (some e, rest) := by
  have hunsigned (n : Nat) : ∃ c ds, Nat.toDigits 10 n = c :: ds ∧ c ≠ '-' ∧ c ≠ '+' ∧
      digits (c :: (ds ++ rest)) = (c :: ds, rest) ∧ value (c :: ds) = n := by
    obtain ⟨c, ds, hds, hc, -⟩ := toDigits_cons n
    have hread := digits_toDigits n h
    have hvalue := value_toDigits n
    rw [hds] at hread hvalue
    refine ⟨c, ds, hds, ?_, ?_, hread, hvalue⟩
    · rintro rfl
      exact absurd hc (by decide)
    · rintro rfl
      exact absurd hc (by decide)
  cases e with
  | ofNat n =>
      obtain ⟨c, ds, hds, hminus, hplus, hread, hvalue⟩ := hunsigned n
      rw [printInt, hds, List.cons_append]
      simp [readExponent, hminus, hplus, hread, hvalue]
  | negSucc n =>
      obtain ⟨c, ds, hds, -, -, hread, hvalue⟩ := hunsigned (n + 1)
      have hneg : -((n + 1 : Nat) : Int) = Int.negSucc n := rfl
      rw [printInt, hds, List.cons_append, List.cons_append, ← hneg]
      simp [readExponent, hread, hvalue]

theorem Closes.readFraction {rest : List Char} (h : Closes rest) :
    Json.readFraction rest = some (none, rest) := by
  cases rest with
  | nil => rfl
  | cons c rest =>
      apply readFraction_of_ne
      rintro rfl
      exact absurd (h '.' rfl) (by decide)

theorem Closes.readExponent {rest : List Char} (h : Closes rest) :
    Json.readExponent rest = some (none, rest) := by
  cases rest with
  | nil => rfl
  | cons c rest =>
      have hc : ¬ (c = 'e' ∨ c = 'E') := by
        rintro (rfl | rfl)
        · exact absurd (h 'e' rfl) (by decide)
        · exact absurd (h 'E' rfl) (by decide)
      simp [Json.readExponent, hc]

theorem readUnsigned_integer (negative : Bool) (n : Nat) {rest : List Char} (h : Closes rest) :
    readUnsigned negative (Nat.toDigits 10 n ++ rest) = some (.integer negative n, rest) := by
  rw [readUnsigned, readMagnitude_toDigits n h.endsDigits]
  simp [h.readFraction, h.readExponent]

theorem readUnsigned_decimal (negative : Bool) (whole : Nat) {fraction : List Char} (e : Int)
    {rest : List Char} (hfraction : ∀ c ∈ fraction, c.isDigit = true) (h : Closes rest) :
    readUnsigned negative
        (Nat.toDigits 10 whole ++ (printFraction fraction ++ 'e' :: (printInt e ++ rest))) =
      some (.decimal negative whole fraction e, rest) := by
  have hpoint : EndsDigits (printFraction fraction ++ 'e' :: (printInt e ++ rest)) := by
    rw [printFraction]
    split
    · exact endsDigits_cons (by decide) _
    · exact endsDigits_cons (by decide) _
  rw [readUnsigned, readMagnitude_toDigits whole hpoint]
  simp only [Option.bind_eq_bind, Option.bind_some]
  rw [readFraction_print hfraction (endsDigits_cons (by decide) _)]
  simp only [Option.bind_some]
  rw [readExponent_print e h.endsDigits]
  by_cases hnil : fraction = [] <;> simp [hnil]

theorem readNumber_toDigits (n : Nat) (rest : List Char) :
    readNumber (Nat.toDigits 10 n ++ rest) = readUnsigned false (Nat.toDigits 10 n ++ rest) := by
  obtain ⟨c, ds, hds, hc, -⟩ := toDigits_cons n
  rw [hds, List.cons_append]
  unfold readNumber
  split
  · next heq =>
      rw [(List.cons.inj heq).1] at hc
      exact absurd hc (by decide)
  · rfl

theorem readNumber_print {n : Number} (hn : n.IsWritten) {rest : List Char} (h : Closes rest) :
    readNumber (n.print ++ rest) = some (n, rest) := by
  cases n with
  | integer negative m =>
      cases negative with
      | false => exact (readNumber_toDigits m rest).trans (readUnsigned_integer false m h)
      | true => exact readUnsigned_integer true m h
  | decimal negative whole fraction e =>
      have hread := readUnsigned_decimal negative whole e hn h
      have htext : (Number.decimal negative whole fraction e).print ++ rest = printSign negative ++
          (Nat.toDigits 10 whole ++ (printFraction fraction ++ 'e' :: (printInt e ++ rest))) := by
        simp [Number.print]
      rw [htext]
      cases negative with
      | false => exact (readNumber_toDigits whole _).trans hread
      | true => exact hread

def shortEscapes : List Char := ['"', '\\', '\n', '\r', '\t', '\x08', '\x0c']

/-- What a character is read back as. -/
def piece (c : Char) : Piece :=
  if c ∉ shortEscapes ∧ c.toNat < 0x20 then .unit c.toNat else .char c

theorem unit?_hexDigit {n : Nat} (h : n < 0x20) :
    unit? '0' '0' (hexDigit (n / 16)) (hexDigit (n % 16)) = some n := by
  have hall : ∀ n : Fin 32, unit? '0' '0' (hexDigit (n.val / 16)) (hexDigit (n.val % 16)) = some n.val := by
    decide
  exact hall ⟨n, h⟩

theorem readPieces_plain {c : Char} (hquote : c ≠ '"') (hback : c ≠ '\\') (h : ¬ c.toNat < 0x20)
    (rest : List Char) : readPieces (c :: rest) = (readPieces rest).map fun p => (.char c :: p.1, p.2) := by
  rw [readPieces.eq_def]
  split
  · next heq => cases heq
  · next heq => exact absurd (List.cons.inj heq).1 hquote
  · next heq => exact absurd (List.cons.inj heq).1 hback
  · next heq => exact absurd (List.cons.inj heq).1 hback
  · next heq =>
      cases heq
      rw [if_neg h]
      cases readPieces rest <;> rfl

theorem readPieces_escaped {e c : Char} (h : escaped? e = some c) (rest : List Char) :
    readPieces ('\\' :: e :: rest) = (readPieces rest).map fun p => (.char c :: p.1, p.2) := by
  have hu : e ≠ 'u' := by
    rintro rfl
    have hnone : escaped? 'u' = none := by decide
    rw [hnone] at h
    cases h
  rw [readPieces.eq_def]
  split
  · next heq => cases heq
  · next heq => exact absurd (List.cons.inj heq).1 (by decide)
  · next heq => exact absurd (List.cons.inj (List.cons.inj heq).2).1 hu
  · next heq =>
      cases heq
      rw [h]
      cases readPieces rest <;> rfl
  · next hne heq => exact (hne _ _ (List.cons.inj heq).1.symm (List.cons.inj heq).2.symm).elim

theorem readPieces_unit {a b c d : Char} {n : Nat} (h : unit? a b c d = some n) (rest : List Char) :
    readPieces ('\\' :: 'u' :: a :: b :: c :: d :: rest) =
      (readPieces rest).map fun p => (.unit n :: p.1, p.2) := by
  rw [readPieces, h]
  cases readPieces rest <;> rfl

theorem readPieces_escapeChar (c : Char) (rest : List Char) :
    readPieces (escapeChar c ++ rest) = (readPieces rest).map fun p => (piece c :: p.1, p.2) := by
  by_cases hshort : c ∈ shortEscapes
  · rw [piece, if_neg (by simp [hshort])]
    simp only [shortEscapes, List.mem_cons, List.not_mem_nil, or_false] at hshort
    rcases hshort with rfl | rfl | rfl | rfl | rfl | rfl | rfl <;>
      exact readPieces_escaped (by decide) rest
  · have hne := hshort
    simp only [shortEscapes, List.mem_cons, List.not_mem_nil, or_false, not_or] at hne
    obtain ⟨hquote, hback, hline, hreturn, htab, hbackspace, hfeed⟩ := hne
    simp only [escapeChar, hquote, hback, hline, hreturn, htab, hbackspace, hfeed, if_false]
    by_cases hcontrol : c.toNat < 0x20
    · rw [if_pos hcontrol, piece, if_pos ⟨hshort, hcontrol⟩]
      exact readPieces_unit (unit?_hexDigit hcontrol) rest
    · rw [if_neg hcontrol, piece, if_neg fun h => hcontrol h.2]
      exact readPieces_plain hquote hback hcontrol rest

theorem readPieces_escape (s rest : List Char) :
    readPieces (s.flatMap escapeChar ++ '"' :: rest) = some (s.map piece, rest) := by
  induction s with
  | nil => rw [List.flatMap_nil, List.nil_append, readPieces, List.map_nil]
  | cons c s ih =>
      rw [List.flatMap_cons, List.append_assoc, readPieces_escapeChar, ih]
      rfl

theorem denote_piece (c : Char) (ps : List Piece) : denote (piece c :: ps) = (denote ps).map (c :: ·) := by
  rw [piece]
  split
  · next h =>
      have hlow : isLowSurrogate c.toNat = false := by simp [isLowSurrogate]; omega
      have hhigh : isHighSurrogate c.toNat = false := by simp [isHighSurrogate]; omega
      have hsame : Char.ofNat c.toNat = c := Char.ofNat_toNat c
      rw [denote.eq_def]
      split
      · next heq => cases heq
      · next heq => cases heq
      · next n m rest heq =>
          cases heq
          simp [hlow, hhigh, hsame]
      · next n rest hne heq =>
          cases heq
          simp [hlow, hhigh, hsame]
  · rw [denote]

theorem denote_pieces (s : List Char) : denote (s.map piece) = some s := by
  induction s with
  | nil => rfl
  | cons c s ih => rw [List.map_cons, denote_piece, ih, Option.map_some]

theorem readLiteral_of_pieces {s rest : List Char} {ps : List Piece}
    (h : readPieces s = some (ps, rest)) : readLiteral s = some ((denote ps).map String.ofList, rest) := by
  rw [readLiteral, h]
  rfl

theorem readLiteral_print (s : Literal) (rest : List Char) :
    ∃ body, printLiteral s = '"' :: body ∧ readLiteral (body ++ rest) = some (s, rest) := by
  cases s with
  | none =>
      have hread : readPieces ('\\' :: 'u' :: 'd' :: '8' :: '0' :: '0' :: '"' :: rest) =
          some ([.unit 0xD800], rest) := by
        rw [readPieces_unit (n := 0xD800) (by decide), readPieces]
        rfl
      exact ⟨_, rfl, readLiteral_of_pieces hread⟩
  | some s =>
      refine ⟨s.toList.flatMap escapeChar ++ ['"'], rfl, ?_⟩
      have hread := readPieces_escape s.toList rest
      rw [List.append_assoc, List.singleton_append, readLiteral_of_pieces hread, denote_pieces,
        Option.map_some, String.ofList_toList]

mutual

def IsWritten : Json → Prop
  | .null | .bool _ | .string _ => True
  | .number n => n.IsWritten
  | .array items => AreWritten items
  | .object members => MembersAreWritten members

def AreWritten : List Json → Prop
  | [] => True
  | j :: rest => IsWritten j ∧ AreWritten rest

def MembersAreWritten : List (Literal × Json) → Prop
  | [] => True
  | (_, j) :: rest => IsWritten j ∧ MembersAreWritten rest

end

theorem skipBlanks_cons {c : Char} (h : isBlank c = false) (rest : List Char) :
    skipBlanks (c :: rest) = c :: rest :=
  List.dropWhile_cons_of_neg (by simp [h])

def foreign : List Char := [' ', '\n', '\t', '\r', 'n', 't', 'f', '"', '[', '{', ']']

theorem Number.print_head (n : Number) : ∃ c s, n.print = c :: s ∧ ∀ x ∈ foreign, c ≠ x := by
  have hminus : ∀ x ∈ foreign, '-' ≠ x := by simp [foreign]
  have hdigit : ∀ x ∈ foreign, x.isDigit = false := by simp [foreign, Char.isDigit]
  have hunsigned (m : Nat) (s : List Char) :
      ∃ c t, Nat.toDigits 10 m ++ s = c :: t ∧ ∀ x ∈ foreign, c ≠ x := by
    obtain ⟨c, ds, hds, hc, -⟩ := toDigits_cons m
    rw [hds]
    refine ⟨c, _, rfl, fun x hx he => ?_⟩
    rw [he, hdigit x hx] at hc
    cases hc
  cases n with
  | integer negative m =>
      cases negative with
      | true => exact ⟨'-', _, rfl, hminus⟩
      | false => simpa [Number.print, printSign] using hunsigned m []
  | decimal negative whole fraction e =>
      cases negative with
      | true => exact ⟨'-', _, rfl, hminus⟩
      | false => simpa [Number.print, printSign] using hunsigned whole _

theorem print_head (j : Json) : ∃ c s, print j = c :: s ∧ isBlank c = false ∧ c ≠ ']' := by
  cases j with
  | null => exact ⟨_, _, rfl, by decide, by decide⟩
  | bool b => cases b <;> exact ⟨_, _, rfl, by decide, by decide⟩
  | string s =>
      obtain ⟨body, hbody, -⟩ := readLiteral_print s []
      exact ⟨'"', body, hbody, by decide, by decide⟩
  | array items => cases items <;> exact ⟨_, _, rfl, by decide, by decide⟩
  | object members => cases members <;> exact ⟨_, _, rfl, by decide, by decide⟩
  | number n =>
      obtain ⟨c, s, hs, hc⟩ := n.print_head
      simp only [foreign, List.forall_mem_cons] at hc
      exact ⟨c, s, hs, by simp [isBlank, hc], hc.2.2.2.2.2.2.2.2.2.2.1⟩

theorem readValue_number {n : Number} (hn : n.IsWritten) (fuel : Nat) {rest : List Char} (h : Closes rest) :
    readValue (fuel + 1) (n.print ++ rest) = some (.number n, rest) := by
  have hread := readNumber_print hn h
  obtain ⟨c, s, hs, hc⟩ := n.print_head
  have hblank : isBlank c = false := by
    simp only [foreign, List.forall_mem_cons] at hc
    simp [isBlank, hc]
  rw [hs, List.cons_append] at hread ⊢
  rw [readValue, skipBlanks_cons hblank]
  -- the reader tells the other values by signs that are foreign to numbers
  split
  · next heq => exact absurd (List.cons.inj heq).1 (hc _ (by decide))
  · next heq => exact absurd (List.cons.inj heq).1 (hc _ (by decide))
  · next heq => exact absurd (List.cons.inj heq).1 (hc _ (by decide))
  · next heq => exact absurd (List.cons.inj heq).1 (hc _ (by decide))
  · next heq => exact absurd (List.cons.inj heq).1 (hc _ (by decide))
  · next heq => exact absurd (List.cons.inj heq).1 (hc _ (by decide))
  · rw [hread]
    rfl

theorem printItems_closes (items : List Json) (rest : List Char) : Closes (printItems items ++ rest) := by
  cases items with
  | nil => exact closes_cons (by decide) _
  | cons j items => exact closes_cons (by decide) _

theorem printMembers_closes (members : List (Literal × Json)) (rest : List Char) :
    Closes (printMembers members ++ rest) := by
  cases members with
  | nil => exact closes_cons (by decide) _
  | cons m members => exact closes_cons (by decide) _

theorem readValue_array (j : Json) (fuel : Nat) (rest : List Char) :
    readValue (fuel + 1) ('[' :: (print j ++ rest)) = do
      let (j, rest) ← readValue fuel (print j ++ rest)
      let (js, rest) ← readItems fuel rest
      return (.array (j :: js), rest) := by
  obtain ⟨c, s, hs, hblank, hclose⟩ := print_head j
  rw [hs, List.cons_append, readValue, skipBlanks_cons (by decide)]
  simp only [skipBlanks_cons hblank]
  split
  · next heq => exact absurd (List.cons.inj heq).1 hclose
  · rfl

theorem readValue_object (name : Literal) (fuel : Nat) (rest : List Char) :
    readValue (fuel + 1) ('{' :: (printLiteral name ++ rest)) = do
      let (m, rest) ← readMember fuel (printLiteral name ++ rest)
      let (ms, rest) ← readMembers fuel rest
      return (.object (m :: ms), rest) := by
  obtain ⟨body, hbody, -⟩ := readLiteral_print name []
  rw [hbody, List.cons_append, readValue, skipBlanks_cons (by decide)]
  simp only [skipBlanks_cons (c := '"') (by decide)]
  split
  · next heq => exact absurd (List.cons.inj heq).1 (by decide)
  · rfl

theorem readMember_print (name : Literal) {j : Json} {fuel : Nat} {rest : List Char}
    (h : readValue fuel (print j ++ rest) = some (j, rest)) :
    readMember (fuel + 1) (printLiteral name ++ ':' :: (print j ++ rest)) = some ((name, j), rest) := by
  obtain ⟨body, hbody, hread⟩ := readLiteral_print name (':' :: (print j ++ rest))
  rw [hbody, List.cons_append, readMember, skipBlanks_cons (by decide)]
  simp only [expect, if_true, Option.bind_eq_bind, Option.bind_some, hread,
    skipBlanks_cons (c := ':') (by decide), h]
  rfl

mutual

/-- The fuel that is needed is no more than the text is long. -/
theorem readValue_print : ∀ {j : Json}, j.IsWritten → ∀ {fuel : Nat} {rest : List Char},
    (print j).length ≤ fuel → Closes rest → readValue fuel (print j ++ rest) = some (j, rest)
  | j, hj, 0, rest, hfuel, _ => by
      obtain ⟨c, s, hs, -⟩ := print_head j
      rw [hs] at hfuel
      cases hfuel
  | .null, _, fuel + 1, rest, _, _ => by
      rw [readValue, print]
      rfl
  | .bool true, _, fuel + 1, rest, _, _ => by
      rw [readValue, print]
      rfl
  | .bool false, _, fuel + 1, rest, _, _ => by
      rw [readValue, print]
      rfl
  | .number n, hn, fuel + 1, rest, _, h => readValue_number hn fuel h
  | .string s, _, fuel + 1, rest, _, _ => by
      obtain ⟨body, hbody, hread⟩ := readLiteral_print s rest
      rw [print, hbody, List.cons_append, readValue, skipBlanks_cons (by decide)]
      simp only [hread]
      rfl
  | .array [], _, fuel + 1, rest, _, _ => by
      rw [readValue, print]
      rfl
  | .array (j :: items), hj, fuel + 1, rest, hfuel, h => by
      obtain ⟨hj, hitems⟩ := hj
      simp only [print, List.length_append, List.length_cons] at hfuel
      have hvalue : readValue fuel (print j ++ (printItems items ++ rest)) =
          some (j, printItems items ++ rest) :=
        readValue_print hj (by omega) (printItems_closes items rest)
      have hrest : readItems fuel (printItems items ++ rest) = some (items, rest) :=
        readItems_print hitems (by omega)
      rw [print, List.append_assoc, List.cons_append, readValue_array, hvalue]
      simp only [Option.bind_eq_bind, Option.bind_some, hrest]
      rfl
  | .object [], _, fuel + 1, rest, _, _ => by
      rw [readValue, print]
      rfl
  | .object ((name, j) :: members), hj, fuel + 1, rest, hfuel, h => by
      obtain ⟨hj, hmembers⟩ := hj
      simp only [print, List.length_append, List.length_cons] at hfuel
      obtain ⟨fuel, rfl⟩ : ∃ n, fuel = n + 1 := ⟨fuel - 1, by omega⟩
      have hvalue : readValue fuel (print j ++ (printMembers members ++ rest)) =
          some (j, printMembers members ++ rest) :=
        readValue_print hj (by omega) (printMembers_closes members rest)
      have hrest : readMembers (fuel + 1) (printMembers members ++ rest) = some (members, rest) :=
        readMembers_print hmembers (by omega)
      have htext : print (.object ((name, j) :: members)) ++ rest =
          '{' :: (printLiteral name ++ ':' :: (print j ++ (printMembers members ++ rest))) := by
        simp [print]
      rw [htext, readValue_object, readMember_print name hvalue]
      simp only [Option.bind_eq_bind, Option.bind_some, hrest]
      rfl

theorem readItems_print : ∀ {items : List Json}, AreWritten items → ∀ {fuel : Nat} {rest : List Char},
    (printItems items).length ≤ fuel → readItems fuel (printItems items ++ rest) = some (items, rest)
  | [], _, 0, _, hfuel => by cases hfuel
  | [], _, fuel + 1, rest, _ => rfl
  | _ :: _, _, 0, _, hfuel => by cases hfuel
  | j :: items, hj, fuel + 1, rest, hfuel => by
      obtain ⟨hj, hitems⟩ := hj
      simp only [printItems, List.length_append, List.length_cons] at hfuel
      have hvalue : readValue fuel (print j ++ (printItems items ++ rest)) =
          some (j, printItems items ++ rest) :=
        readValue_print hj (by omega) (printItems_closes items rest)
      have hrest : readItems fuel (printItems items ++ rest) = some (items, rest) :=
        readItems_print hitems (by omega)
      rw [printItems, List.append_assoc, List.cons_append, readItems, skipBlanks_cons (by decide)]
      simp only [Option.bind_eq_bind, hvalue, Option.bind_some, hrest]
      rfl

theorem readMembers_print : ∀ {members : List (Literal × Json)}, MembersAreWritten members →
    ∀ {fuel : Nat} {rest : List Char}, (printMembers members).length ≤ fuel →
      readMembers fuel (printMembers members ++ rest) = some (members, rest)
  | [], _, 0, _, hfuel => by cases hfuel
  | [], _, fuel + 1, rest, _ => rfl
  | (name, j) :: members, hj, fuel, rest, hfuel => by
      obtain ⟨hj, hmembers⟩ := hj
      simp only [printMembers, List.length_append, List.length_cons] at hfuel
      obtain ⟨fuel, rfl⟩ : ∃ n, fuel = n + 2 := ⟨fuel - 2, by omega⟩
      have hvalue : readValue fuel (print j ++ (printMembers members ++ rest)) =
          some (j, printMembers members ++ rest) :=
        readValue_print hj (by omega) (printMembers_closes members rest)
      have hrest : readMembers (fuel + 1) (printMembers members ++ rest) = some (members, rest) :=
        readMembers_print hmembers (by omega)
      have htext : printMembers ((name, j) :: members) ++ rest =
          ',' :: (printLiteral name ++ ':' :: (print j ++ (printMembers members ++ rest))) := by
        simp [printMembers]
      rw [htext, readMembers, skipBlanks_cons (by decide)]
      simp only [Option.bind_eq_bind, readMember_print name hvalue, Option.bind_some, hrest]
      rfl

end

/-- What is printed is read back. -/
theorem parse?_render {j : Json} (h : j.IsWritten) : parse? (render j) = some j := by
  have hread : readValue (2 * (print j).length + 2) (print j ++ []) = some (j, []) :=
    readValue_print h (by omega) nofun
  rw [List.append_nil] at hread
  rw [parse?, render, String.toList_ofList, parseChars?, hread]
  rfl

end Dispatch.Json
