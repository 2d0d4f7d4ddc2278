import Mathlib.Tactic.IntervalCases
import ClassMold.Proofs.Text.Casing
import ClassMold.Text.Escaped

/-! Keys as string literals, read back the way a compiler of the generated code
reads them. It reads in two phases, Unicode escapes before everything else and
the escape sequences of the string after that, while the literal is written by
the rules of another language. The phases meet where a key holds runs of
backslashes, so each phase is taken apart code point by code point. -/
namespace ClassMold.StringLiterals
open CodePoint

/-- The code point that begins every escape. -/
def backslash : CodePoint := .scalar '\\'

/-- The code point at both ends of a literal. -/
def quote : CodePoint := .scalar '"'

/-- The code points that end a line. -/
def lineEnds : List CodePoint := [.scalar '\n', .scalar '\r']

/-! ### The reader -/

/-- A Unicode escape, read behind its backslash: any number of `u`, at least one,
and four hexadecimal digits. The number counts the code points that it takes up. -/
def unicodeEscape? (t : Text) : Option (CodePoint × Nat) :=
  let marks := (t.takeWhile (· = .scalar 'u')).length
  let digits := ((t.drop marks).take 4).filterMap (digit? 16)
  if 0 < marks ∧ digits.length = 4 then some (ofNat (Text.readDigits 16 digits), marks + 4)
  else none

/-- The first phase, which replaces Unicode escapes. A backslash may begin one only
if the backslashes directly before it are even in number. What an escape stands
for takes no part in further escapes. The first argument counts the code points
that still belong to the escape before, the second tells whether the backslashes
directly before are odd in number. -/
def translate : (owed : Nat) → (odd : Bool) → Text → Option Text
  | _, _, [] => some []
  | owed + 1, odd, _ :: rest => translate owed odd rest
  | 0, odd, c :: rest =>
    if c = backslash ∧ odd = false ∧ rest.head? = some (.scalar 'u') then
      match unicodeEscape? rest with
      | none => none
      | some (unit, length) => (translate length false rest).map (unit :: ·)
    else (translate 0 (c = backslash && !odd) rest).map (c :: ·)

/-- The escape sequences of a single code point, and what each stands for. -/
def simpleEscapes : List (CodePoint × CodePoint) := [
  (.scalar 'b', .scalar '\x08'), (.scalar 's', .scalar ' '), (.scalar 't', .scalar '\t'),
  (.scalar 'n', .scalar '\n'), (.scalar 'f', .scalar '\x0c'), (.scalar 'r', .scalar '\r'),
  (quote, quote), (.scalar '\x27', .scalar '\x27'), (backslash, backslash)]

/-- What an escape sequence of a single code point stands for. -/
def simpleEscape? (c : CodePoint) : Option CodePoint :=
  (simpleEscapes.find? (·.1 = c)).map (·.2)

/-- An octal escape, read behind its backslash: up to three digits, of which the
first is at most three if there are three. -/
def octalEscape? (t : Text) : Option (CodePoint × Nat) :=
  let width := if t.head?.any (·.val ≤ 0x33) then 3 else 2
  let digits := ((t.take width).takeWhile fun c => (c.digit? 8).isSome).filterMap (digit? 8)
  if digits = [] then none else some (ofNat (Text.readDigits 8 digits), digits.length)

/-- An escape sequence of a string, read behind its backslash. The number counts
the code points that it takes up. -/
def escapeSequence? (t : Text) : Option (CodePoint × Nat) :=
  match t.head?.bind simpleEscape? with
  | some meant => some (meant, 1)
  | none => octalEscape? t

/-- The second phase: a string up to the first quote outside an escape sequence,
and what follows that quote. No line may end within. -/
def readString : (owed : Nat) → Text → Option (Text × Text)
  | _, [] => none
  | owed + 1, _ :: rest => readString owed rest
  | 0, c :: rest =>
    if c = quote then some ([], rest)
    else if c ∈ lineEnds then none
    else if c = backslash then
      match escapeSequence? rest with
      | none => none
      | some (meant, length) => (readString length rest).map (Prod.map (meant :: ·) id)
    else (readString 0 rest).map (Prod.map (c :: ·) id)

/-- The string literal that a source begins with, and what follows it. Three quotes
would begin a block of text instead. -/
def readLiteral? (source : Text) : Option (Text × Text) :=
  match translate 0 false source with
  | some (first :: rest) =>
    if first = quote ∧ rest.take 2 ≠ [quote, quote] then readString 0 rest else none
  | _ => none

/-! ### The first phase -/

theorem translate_plain {c : CodePoint} (other : c ≠ backslash) (odd : Bool) (rest : Text) :
    translate 0 odd (c :: rest) = (translate 0 false rest).map (c :: ·) := by
  simp [translate, other]

/-- A backslash and what it escapes stay as they are, be it a backslash or not. -/
theorem translate_pair {c : CodePoint} (other : c ≠ .scalar 'u') (rest : Text) :
    translate 0 false (backslash :: c :: rest) =
      (translate 0 false rest).map fun after => backslash :: c :: after := by
  by_cases escaped : c = backslash <;>
    simp [translate, escaped, other, Function.comp_def, backslash]

/-- A control character is written with exactly four digits, and they tell its number. -/
theorem unicode_escape_control {n : Nat} (control : n < 0x20) (rest : Text) :
    (Text.hex 4 n).length = 4 ∧
      unicodeEscape? (.scalar 'u' :: Text.hex 4 n ++ rest) = some (ofNat n, 5) := by
  interval_cases n <;> exact ⟨rfl, rfl⟩

/-- What an escape takes up is passed over. -/
theorem translate_owed (odd : Bool) (escape rest : Text) :
    translate escape.length odd (escape ++ rest) = translate 0 odd rest := by
  induction escape with
  | nil => rfl
  | cons c escape ih => exact ih

/-- The escape of a control character is replaced by that character. -/
theorem translate_control {n : Nat} (control : n < 0x20) (rest : Text) :
    translate 0 false (unitEscape n ++ rest) = (translate 0 false rest).map (ofNat n :: ·) := by
  obtain ⟨four, escape⟩ := unicode_escape_control control rest
  have passed := translate_owed false (.scalar 'u' :: Text.hex 4 n) rest
  rw [List.length_cons, four] at passed
  have shape : unitEscape n ++ rest = backslash :: (.scalar 'u' :: Text.hex 4 n ++ rest) := rfl
  rw [shape, translate, if_pos ⟨rfl, rfl, rfl⟩, escape]
  exact congrArg (Option.map _) passed

/-! ### How a code point is written -/

/-- A code point of a literal after the first phase: only control characters
without a short escape are changed. -/
def translated (c : CodePoint) : Text := c.shortEscape?.getD [c]

/-- A code point that a string can hold as it is. -/
def IsBare (c : CodePoint) : Prop := c ≠ backslash ∧ c ≠ quote ∧ c ∉ lineEnds

/-- The second code point of a short escape for `c`. -/
structure Abbreviates (d c : CodePoint) : Prop where
  meant : simpleEscape? d = some c
  notMark : d ≠ .scalar 'u'
  ascii : d.val < 0x80
  inLine : d ∉ lineEnds

theorem short_escape_shape {c : CodePoint} {escape : Text} (short : c.shortEscape? = some escape) :
    ∃ d, escape = [backslash, d] ∧ Abbreviates d c := by
  unfold shortEscape? at short
  split at short <;> cases short <;>
    exact ⟨_, rfl, by decide, by decide, by decide, by decide⟩

theorem bare_without_escape {c : CodePoint} (plain : c.shortEscape? = none) : IsBare c := by
  refine ⟨?_, ?_, ?_⟩
  · rintro rfl
    cases plain
  · rintro rfl
    cases plain
  · intro ends
    simp only [lineEnds, List.mem_cons, List.not_mem_nil, or_false] at ends
    rcases ends with rfl | rfl <;> cases plain

/-- The three ways to write a code point, and what the first phase makes of them. -/
theorem written (c : CodePoint) :
    (∃ d, c.plainEscape = [backslash, d] ∧ translated c = [backslash, d] ∧ Abbreviates d c) ∨
      (c.plainEscape = unitEscape c.val ∧ translated c = [c] ∧ c.val < 0x20 ∧ IsBare c) ∨
      (c.plainEscape = [c] ∧ translated c = [c] ∧ IsBare c) := by
  unfold plainEscape translated
  cases short : c.shortEscape? with
  | some escape =>
    obtain ⟨d, rfl, abbreviates⟩ := short_escape_shape short
    exact .inl ⟨d, rfl, rfl, abbreviates⟩
  | none =>
    have bare := bare_without_escape short
    by_cases control : c.val < 0x20
    · exact .inr (.inl ⟨if_pos control, rfl, control, bare⟩)
    · exact .inr (.inr ⟨if_neg control, rfl, bare⟩)

/-- The first phase, over one code point of a key. -/
theorem translate_escaped (c : CodePoint) (rest : Text) :
    translate 0 false (c.plainEscape ++ rest) = (translate 0 false rest).map (translated c ++ ·) := by
  rcases written c with ⟨d, escape, shown, abbreviates⟩ | ⟨escape, shown, control, -⟩ |
    ⟨escape, shown, bare⟩
  · rw [escape, shown]
    exact translate_pair abbreviates.notMark rest
  · rw [escape, shown, translate_control control, Casing.of_nat_val]
    rfl
  · rw [escape, shown]
    exact translate_plain bare.1 false rest

/-- The first phase, over a whole literal. -/
theorem translate_literal (key rest : Text) :
    translate 0 false (key.literal ++ rest) =
      (translate 0 false rest).map (quote :: key.flatMap translated ++ quote :: ·) := by
  have opening : quote ≠ backslash := by decide
  have body : translate 0 false (key.flatMap plainEscape ++ quote :: rest) =
      (translate 0 false (quote :: rest)).map (key.flatMap translated ++ ·) := by
    induction key with
    | nil => simp
    | cons c key ih =>
      simp only [List.flatMap_cons, List.append_assoc, translate_escaped, ih, Option.map_map,
        Function.comp_def]
  have shape : key.literal ++ rest = quote :: (key.flatMap plainEscape ++ quote :: rest) := by
    simp [Text.literal, quote]
  rw [shape, translate_plain opening, body, translate_plain opening]
  simp [Function.comp_def]

/-! ### The second phase -/

/-- The second phase, over one code point of a key. -/
theorem read_translated (c : CodePoint) (rest : Text) :
    readString 0 (translated c ++ rest) = (readString 0 rest).map (Prod.map (c :: ·) id) := by
  have single (bare : IsBare c) :
      readString 0 (c :: rest) = (readString 0 rest).map (Prod.map (c :: ·) id) := by
    simp [readString, bare.1, bare.2.1, bare.2.2]
  rcases written c with ⟨d, -, shown, abbreviates⟩ | ⟨-, shown, -, bare⟩ | ⟨-, shown, bare⟩
  · have sequence : escapeSequence? (d :: rest) = some (c, 1) := by
      simp [escapeSequence?, abbreviates.meant]
    have notQuote : backslash ≠ quote := by decide
    have inLine : backslash ∉ lineEnds := by decide
    simp [shown, readString, notQuote, inLine, sequence]
  · rw [shown]
    exact single bare
  · rw [shown]
    exact single bare

/-- The second phase, over a whole key: it ends at the closing quote. -/
theorem read_body (key rest : Text) :
    readString 0 (key.flatMap translated ++ quote :: rest) = some (key, rest) := by
  induction key with
  | nil => simp [readString]
  | cons c key ih => simp [List.append_assoc, read_translated, ih]

/-! ### Both phases -/

theorem translated_start (c : CodePoint) (rest : Text) :
    (translated c ++ rest).head? ≠ some quote := by
  rcases written c with ⟨d, -, shown, -⟩ | ⟨-, shown, -, bare⟩ | ⟨-, shown, bare⟩ <;>
    rw [shown, List.cons_append, List.head?_cons, ne_eq, Option.some.injEq]
  · decide
  · exact bare.2.1
  · exact bare.2.1

/-- A literal never opens a block of text by itself. -/
theorem body_start {rest : Text} (apart : rest.head? ≠ some quote) (key : Text) :
    (key.flatMap translated ++ quote :: rest).take 2 ≠ [quote, quote] := by
  intro both
  cases key with
  | nil =>
    cases rest with
    | nil => cases both
    | cons c rest => exact apart (by simpa using both)
  | cons c key =>
    have first := congrArg List.head? both
    rw [List.head?_take, if_neg (by decide), List.flatMap_cons, List.append_assoc] at first
    exact translated_start c _ first

/-- A literal, read where it stands: the reading yields the key and stops behind
the closing quote, and what follows is translated as if it stood alone. -/
theorem read_literal {rest : Text}
    (apart : ∀ after, translate 0 false rest = some after → after.head? ≠ some quote) (key : Text) :
    readLiteral? (key.literal ++ rest) = (translate 0 false rest).map fun after => (key, after) := by
  rw [readLiteral?, translate_literal]
  cases followed : translate 0 false rest with
  | none => rfl
  | some after =>
    have body := body_start (apart after followed) key
    simp [body, read_body]

/-! ### Literals as units of sixteen bits -/

/-- The units that a code point takes up in a string: one, or beyond U+FFFF a pair
of surrogates. -/
def units (c : CodePoint) : Text :=
  if c.val < 0x10000 then [c]
  else [ofNat (0xD800 + (c.val - 0x10000) / 0x400), ofNat (0xDC00 + (c.val - 0x10000) % 0x400)]

theorem units_small {t : Text} (small : ∀ c ∈ t, c.val < 0x10000) : t.flatMap units = t := by
  induction t with
  | nil => rfl
  | cons c t ih =>
    obtain ⟨first, rest⟩ := List.forall_mem_cons.mp small
    simp only [List.flatMap_cons, units, first, ↓reduceIte, ih rest, List.singleton_append]

/-- Escapes are ASCII, so they are units already. -/
theorem units_escape {c : CodePoint} (small : c.val < 0x10000) :
    c.plainEscape.flatMap units = c.plainEscape := by
  refine units_small ?_
  rcases written c with ⟨d, escape, -, abbreviates⟩ | ⟨escape, -, control, -⟩ | ⟨escape, -, -⟩
  · have mark : backslash.val < 0x10000 := by decide
    simpa [escape, mark] using abbreviates.ascii.trans (by decide)
  · have table : ∀ n < 0x20, ∀ d ∈ unitEscape n, d.val < 0x10000 := by decide
    exact escape ▸ table c.val control
  · simpa [escape] using small

/-- Beyond ASCII every code point is written as it is. -/
theorem escape_beyond {c : CodePoint} (beyond : 0x80 ≤ c.val) : c.plainEscape = [c] := by
  have control : ¬ c.val < 0x20 := by omega
  have plain : c.shortEscape? = none := by
    unfold shortEscape?
    split <;> first | rfl | exact absurd beyond (by decide)
  simp only [plainEscape, plain, control, ↓reduceIte]

theorem escape_surrogate {n : Nat} (high : 0xD800 ≤ n) (low : n < 0xE000) :
    (ofNat n).plainEscape = [ofNat n] := by
  refine escape_beyond ?_
  simp only [ofNat, high, low, and_self, ↓reduceDIte, val]
  omega

theorem val_lt (c : CodePoint) : c.val < 0x110000 := by
  cases c with
  | scalar c =>
    have valid : c.toNat < 0xD800 ∨ 0xDFFF < c.toNat ∧ c.toNat < 0x110000 := c.valid
    simp only [val]
    omega
  | surrogate offset =>
    simp only [val]
    omega

/-- To escape a code point and to take it apart into units commute. -/
theorem escape_units (c : CodePoint) :
    c.plainEscape.flatMap units = (units c).flatMap plainEscape := by
  by_cases small : c.val < 0x10000
  · rw [units_escape small]
    simp [units, small]
  · have bound := val_lt c
    have first := escape_surrogate (n := 0xD800 + (c.val - 0x10000) / 0x400) (by omega) (by omega)
    have second := escape_surrogate (n := 0xDC00 + (c.val - 0x10000) % 0x400) (by omega) (by omega)
    simp [escape_beyond (c := c) (by omega), units, small, first, second]

theorem units_literal (key : Text) : key.literal.flatMap units = Text.literal (key.flatMap units) := by
  have ends : units (.scalar '"') = [.scalar '"'] := rfl
  simp only [Text.literal, List.cons_append, List.flatMap_cons, List.flatMap_append, ends,
    List.flatMap_assoc, escape_units, List.flatMap_nil, List.nil_append]

/-! ### Every key -/

/-- No code point of a literal ends a line. -/
theorem literal_in_line (key : Text) {c : CodePoint} (listed : c ∈ key.literal) : c ∉ lineEnds := by
  simp only [Text.literal, List.cons_append, List.mem_cons, List.mem_append, List.mem_flatMap,
    List.not_mem_nil, or_false] at listed
  rcases listed with rfl | ⟨d, -, inside⟩ | rfl
  · decide
  · rcases written d with ⟨e, escape, -, abbreviates⟩ | ⟨escape, -, control, -⟩ | ⟨escape, -, bare⟩
    · rw [escape] at inside
      simp only [List.mem_cons, List.not_mem_nil, or_false] at inside
      rcases inside with rfl | rfl
      · decide
      · exact abbreviates.inLine
    · have table : ∀ n < 0x20, ∀ d ∈ unitEscape n, d ∉ lineEnds := by decide
      exact table d.val control c (escape ▸ inside)
    · rw [escape, List.mem_singleton] at inside
      exact inside ▸ bare.2.2
  · decide

/-- A literal with nothing behind it. -/
theorem read_alone (key : Text) : readLiteral? key.literal = some (key, []) := by
  have apart : ∀ after, translate 0 false [] = some after → after.head? ≠ some quote := by
    rintro after ⟨⟩
    simp
  simpa [translate] using read_literal apart key

/-- A literal where an annotation puts it, before a closing bracket. -/
theorem read_bracketed (key rest : Text) : readLiteral? (key.literal ++ .scalar ')' :: rest) =
    (translate 0 false rest).map fun after => (key, .scalar ')' :: after) := by
  have bracket := translate_plain (c := .scalar ')') (by decide) false rest
  have apart : ∀ after, translate 0 false (.scalar ')' :: rest) = some after →
      after.head? ≠ some quote := by
    intro after shown
    obtain ⟨_, -, rfl⟩ := Option.map_eq_some_iff.mp (bracket ▸ shown)
    simp [quote]
  rw [read_literal apart, bracket, Option.map_map]
  rfl

theorem literal_injective {key other : Text} (same : key.literal = other.literal) : key = other := by
  have read := (read_alone key).symm.trans (same ▸ read_alone other)
  exact (Prod.mk.inj (Option.some.inj read)).1

/-- The literal of a key is one string literal. It lies between two quotes on one
line; read where an annotation puts it, before a closing bracket and whatever
follows, it yields the key again, as code points and as units, and leaves all that
follows to be read as it would be without it. So no two keys share a literal. -/
theorem literal_reads_back (key : Text) :
    (∃ body, key.literal = quote :: body ++ [quote]) ∧ (∀ c ∈ key.literal, c ∉ lineEnds) ∧
      readLiteral? key.literal = some (key, []) ∧
      (∀ rest, readLiteral? (key.literal ++ .scalar ')' :: rest) =
        (translate 0 false rest).map fun after => (key, .scalar ')' :: after)) ∧
      (∀ rest : Text, readLiteral? ((key.literal ++ .scalar ')' :: rest).flatMap units) =
        (translate 0 false (rest.flatMap units)).map fun after =>
          (key.flatMap units, .scalar ')' :: after)) ∧
      ∀ other : Text, other.literal = key.literal → other = key := by
  refine ⟨⟨_, rfl⟩, fun _ => literal_in_line key, read_alone key, read_bracketed key, ?_,
    fun other => literal_injective⟩
  intro rest
  have bracket : units (.scalar ')') = [.scalar ')'] := rfl
  rw [List.flatMap_append, List.flatMap_cons, units_literal, bracket]
  exact read_bracketed _ _

/-- Behind a pair of backslashes a Unicode escape counts, behind one it does not. -/
example : readLiteral? "\"\\\\u0041\\\\\\u0041\"" =
    some (Text.ofString "\\u0041\\A", []) := by decide

end ClassMold.StringLiterals
