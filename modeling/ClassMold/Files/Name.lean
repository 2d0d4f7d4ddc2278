import ClassMold.Text.Utf8

/-!
Names of files as the operating system keeps them: as bytes. In a text, a byte of a name that is no part of
a well-formed sequence is a surrogate, so two texts can be the same name.
-/
namespace ClassMold

/-- Whether a surrogate stands for a byte of a file name that is no text. -/
def standsForByte (offset : Fin 0x800) : Bool := 0x480 ≤ offset.val && offset.val < 0x500

/-- The bytes of a file name. -/
def nameBytes (name : Text) : Bytes :=
  name.flatMap fun
    | .scalar c => Utf8.encodeChar c
    | .surrogate offset => [.ofNat offset.val]

/-- The surrogate that stands for a byte. -/
def byteMark (b : UInt8) : CodePoint := .ofNat (0xDC00 + b.toNat)

/-- The file name with some bytes. -/
def nameOfBytes (bytes : Bytes) : Text :=
  match bytes with
  | [] => []
  | first :: rest =>
    match Utf8.lead? first.toNat with
    | none => byteMark first :: nameOfBytes rest
    | some lead =>
      match _read : Utf8.continuations lead.bits 1 lead.owed lead.low lead.high rest with
      | .error _ => byteMark first :: nameOfBytes rest
      | .ok (number, left) => .ofNat number :: nameOfBytes left
termination_by bytes.length
decreasing_by
  · simp only [List.length_cons]
    omega
  · simp only [List.length_cons]
    omega
  · have := Utf8.continuations_length_le _read
    simp only [List.length_cons]
    omega

/-- A file name with surrogates only for bytes that are no text. -/
def canonicalName (name : Text) : Text :=
  if name.any Utf8.isSurrogate then nameOfBytes (nameBytes name) else name

/-- The number of bytes of a file name. -/
def fileNameSize (name : Text) : Nat := (nameBytes name).length

end ClassMold
