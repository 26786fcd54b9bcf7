/-
Texts as bytes.

Files hold bytes. A text is written in UTF-8, and bytes that are not valid UTF-8
have no text. Where a text is wanted all the same, every malformed run becomes one
replacement character: a run ends before the first byte that cannot continue it.
-/

set_option autoImplicit false

namespace LintGate

/-- Raw bytes. -/
abbrev Bytes := List UInt8

namespace Bytes

/-- The bytes of a text. -/
def ofText (s : String) : Bytes := s.toByteArray.data.toList

/-- The text of some bytes, if they are valid. -/
def text? (b : Bytes) : Option String := String.fromUTF8? ⟨b.toArray⟩

/-- What is written is read back. -/
theorem text?_ofText (s : String) : text? (ofText s) = some s := by
  simp only [text?, ofText, String.fromUTF8?, Array.toArray_toList]
  exact dif_pos s.isValidUTF8

/-- Bytes have one text at most, and they are what writing it gives. -/
theorem text?_eq_some_iff {b : Bytes} {s : String} : text? b = some s ↔ b = ofText s := by
  constructor
  · intro h
    simp only [text?, String.fromUTF8?] at h
    split at h
    · obtain rfl := Option.some.inj h
      rfl
    · cases h
  · rintro rfl
    exact text?_ofText s

/-! ## Reading malformed bytes -/

/-- The number of bytes that follow a lead byte, if it is one. -/
def tailSize (lead : UInt8) : Option Nat :=
  if lead < 0x80 then some 0
  else if lead < 0xc2 then none
  else if lead < 0xe0 then some 1
  else if lead < 0xf0 then some 2
  else if lead < 0xf5 then some 3
  else none

/-- Whether a byte may come second after a lead byte. -/
def mayFollow (lead byte : UInt8) : Bool :=
  let low := if lead = 0xe0 then 0xa0 else if lead = 0xf0 then 0x90 else 0x80
  let high := if lead = 0xed then 0x9f else if lead = 0xf4 then 0x8f else 0xbf
  low ≤ byte && byte ≤ high

/-- Whether a byte may come third or fourth. -/
def continues (byte : UInt8) : Bool := 0x80 ≤ byte && byte ≤ 0xbf

/-- The bytes that continue a lead byte, as many as are wanted and present. -/
def tail (lead : UInt8) (size : Nat) : Bytes → Bytes
  | [] => []
  | second :: rest =>
    if size = 0 then []
    else if mayFollow lead second then second :: (rest.take (size - 1)).takeWhile continues
    else []

/-- The character of a lead byte and its tail. -/
def compose (lead : UInt8) (tail : Bytes) : Char :=
  let top :=
    match tail.length with
    | 0 => lead.toNat
    | 1 => lead.toNat % 32
    | 2 => lead.toNat % 16
    | _ => lead.toNat % 8
  Char.ofNat (tail.foldl (fun n b => n * 64 + b.toNat % 64) top)

/-- The character at the front of bytes that begin with `lead`, and how many bytes after the lead
it takes. -/
def front (lead : UInt8) (rest : Bytes) : Char × Nat :=
  match tailSize lead with
  | none => ('\uFFFD', 0)
  | some size =>
    let t := tail lead size rest
    (if t.length = size then compose lead t else '\uFFFD', t.length)

/-- The characters of some bytes, malformed runs replaced. -/
def chars : Bytes → List Char
  | [] => []
  | lead :: rest => (front lead rest).1 :: chars (rest.drop (front lead rest).2)
termination_by b => b.length
decreasing_by
  simp only [List.length_drop, List.length_cons]
  omega

/-- The text of some bytes, malformed runs replaced. -/
def lossyText (b : Bytes) : String :=
  match text? b with
  | some s => s
  | none => String.ofList (chars b)

end Bytes

end LintGate
