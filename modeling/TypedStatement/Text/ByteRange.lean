/-!
# Positions in a text

A position is a count of UTF-8 bytes from the start of the text.  A text is its list of characters, so a position
that falls inside a character, or after the end, has nothing before it: `splitAtByte` answers `none` there.

The main statements: cutting a text apart loses nothing (`append_of_splitAtByte`), and it cuts where it was asked
to (`utf8Length_of_splitAtByte`).
-/

namespace TypedStatement.Text
set_option autoImplicit false

/-- The bytes `start`, …, `stop - 1` of a text. -/
structure ByteRange where
  start : Nat
  stop : Nat
  deriving DecidableEq

namespace ByteRange

/-- The same stretch in a text that has `bytes` more bytes in front. -/
def shift (range : ByteRange) (bytes : Nat) : ByteRange :=
  ⟨range.start + bytes, range.stop + bytes⟩

@[simp] theorem shift_zero (range : ByteRange) : range.shift 0 = range := rfl

@[simp] theorem shift_shift (range : ByteRange) (m n : Nat) :
    (range.shift m).shift n = range.shift (m + n) := by
  simp only [shift, Nat.add_assoc]

end ByteRange

/-- Number of bytes of the text in UTF-8. -/
def utf8Length : List Char → Nat
  | [] => 0
  | c :: rest => c.utf8Size + utf8Length rest

@[simp] theorem utf8Length_nil : utf8Length [] = 0 := rfl

@[simp] theorem utf8Length_cons (c : Char) (rest : List Char) :
    utf8Length (c :: rest) = c.utf8Size + utf8Length rest := rfl

@[simp] theorem utf8Length_append (a b : List Char) :
    utf8Length (a ++ b) = utf8Length a + utf8Length b := by
  induction a with
  | nil => simp
  | cons c a ih => simp [ih, Nat.add_assoc]

/-- The text before and after a byte position, if that is a boundary between characters. -/
def splitAtByte : Nat → List Char → Option (List Char × List Char)
  | 0, text => some ([], text)
  | _ + 1, [] => none
  | n + 1, c :: rest =>
    if c.utf8Size ≤ n + 1 then
      (splitAtByte (n + 1 - c.utf8Size) rest).map fun (before, after) => (c :: before, after)
    else none
termination_by _ text => text.length

theorem append_of_splitAtByte {n : Nat} {text before after : List Char}
    (h : splitAtByte n text = some (before, after)) : before ++ after = text := by
  fun_induction splitAtByte n text generalizing before after with
  | case1 => simp_all
  | case2 => simp at h
  | case3 n c rest hc ih =>
    obtain ⟨⟨b, a⟩, hs, hp⟩ := Option.map_eq_some_iff.1 h
    cases hp
    simp [ih hs]
  | case4 => simp at h

theorem utf8Length_of_splitAtByte {n : Nat} {text before after : List Char}
    (h : splitAtByte n text = some (before, after)) : utf8Length before = n := by
  fun_induction splitAtByte n text generalizing before after with
  | case1 => simp_all
  | case2 => simp at h
  | case3 n c rest hc ih =>
    obtain ⟨⟨b, a⟩, hs, hp⟩ := Option.map_eq_some_iff.1 h
    cases hp
    simp only [utf8Length_cons, ih hs]
    omega
  | case4 => simp at h

end TypedStatement.Text
