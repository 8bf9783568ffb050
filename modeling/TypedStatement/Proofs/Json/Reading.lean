import Mathlib.Data.List.Basic
import Mathlib.Data.List.TakeDrop
import Mathlib.Data.Nat.Init
import TypedStatement.Proofs.Json.Strings

/-!
# What is written as JSON is read back

A reader takes back data as they were written if it keeps the whole numbers and the entries of the tables in them, and if they
do not stand too deep inside one another (`read?_write`).  Numbers have no end mark: one is read whole because a mark of a list
or a table follows it, or nothing (`EndsValue`).
-/

namespace TypedStatement.Json
set_option autoImplicit false

/-! ## What is kept -/

def Reading.KeepsAtom (reading : Reading) : Atom → Prop
  | .int value => reading.isInteger value = true
  | .float _ => False
  | _ => True

/-- The reader keeps all that the datum consists of, and there are at most so many levels. -/
def Reading.Keeps (reading : Reading) : Nat → Datum → Prop
  | _, .atom value => reading.KeepsAtom value
  | 0, _ => False
  | levels + 1, .list items => ∀ item ∈ items, reading.Keeps levels item
  | levels + 1, .table entries =>
    reading.settle entries = entries ∧ ∀ entry ∈ entries, reading.Keeps levels entry.2

theorem Reading.keeps_atom (reading : Reading) (levels : Nat) (value : Atom) :
    reading.Keeps levels (.atom value) ↔ reading.KeepsAtom value := by
  cases levels <;> rfl

/-! ## Where values begin and end -/

/-- A value can end before this text. -/
def EndsValue (text : List Char) : Prop :=
  ∀ c, text.head? = some c → c = ',' ∨ c = ']' ∨ c = '\x7d'

/-- A value can begin with this character. -/
def StartsValue (c : Char) : Prop :=
  isSpace c = false ∧ c ≠ ']' ∧ c ≠ '\x7d'

instance (c : Char) : Decidable (StartsValue c) :=
  inferInstanceAs (Decidable (_ ∧ _))

theorem skipSpace_cons (c : Char) (rest : List Char) (h : isSpace c = false) : skipSpace (c :: rest) = c :: rest :=
  List.dropWhile_cons_of_neg (by simp [h])

theorem endsValue_nil : EndsValue [] := nofun

theorem endsValue_cons (c : Char) (rest : List Char) (h : c = ',' ∨ c = ']' ∨ c = '\x7d') : EndsValue (c :: rest) := by
  rintro d hd
  rwa [← Option.some.inj hd]

theorem startsValue_of_isDigit (c : Char) (h : c.isDigit = true) : StartsValue c := by
  have hne : ∀ d : Char, d.isDigit = false → c ≠ d := by
    rintro d hd rfl
    rw [h] at hd
    exact absurd hd (by decide)
  refine ⟨?_, hne ']' rfl, hne '\x7d' rfl⟩
  simp [isSpace, hne ' ' rfl, hne '\n' rfl, hne '\t' rfl, hne '\r' rfl]

/-! ## Numbers -/

theorem exists_toDigits (n : Nat) :
    ∃ c later, Nat.toDigits 10 n = c :: later ∧ ∀ d ∈ c :: later, d.isDigit = true := by
  obtain ⟨c, later, hdigits⟩ := List.exists_cons_of_ne_nil (List.length_pos_iff.1 (Nat.length_toDigits_pos (b := 10) (n := n)))
  refine ⟨c, later, hdigits, fun d hd => ?_⟩
  rw [← hdigits] at hd
  exact Nat.isDigit_of_mem_toDigits (by decide) (by decide) hd

/-- Only zero is written with a zero in front. -/
theorem eq_zero_of_head?_toDigits (n : Nat) (h : (Nat.toDigits 10 n).head? = some '0') : n = 0 := by
  induction n using Nat.strong_induction_on with
  | _ n ih =>
    by_cases hsmall : n < 10
    · have hall : ∀ n < 10, Nat.digitChar n = '0' → n = 0 := by decide
      rw [Nat.toDigits_of_lt_base hsmall, List.head?_cons, Option.some.injEq] at h
      exact hall n hsmall h
    · have hsplit := Nat.toDigits_of_base_le (by decide : 1 < 10) (by omega : 10 ≤ n)
      obtain ⟨c, later, hfront, -⟩ := exists_toDigits (n / 10)
      have hhead : (Nat.toDigits 10 (n / 10)).head? = some '0' := by
        rw [hsplit, hfront] at h
        rw [hfront]
        exact h
      have hquotient := ih (n / 10) (by omega) hhead
      omega

theorem digitsValue_toDigits (n : Nat) : digitsValue 0 (Nat.toDigits 10 n) = n := by
  have hsame : digitsValue 0 (Nat.toDigits 10 n) = Nat.ofDigitChars 10 (Nat.toDigits 10 n) 0 := by
    unfold digitsValue Nat.ofDigitChars
    congr 1
    funext value c
    rw [Nat.mul_comm]
  rw [hsame, Nat.ofDigitChars_toDigits (by decide) (by decide)]

theorem span_toDigits (n : Nat) (rest : List Char) (h : EndsValue rest) :
    (Nat.toDigits 10 n ++ rest).span Char.isDigit = (Nat.toDigits 10 n, rest) := by
  have hdigits : ∀ c ∈ Nat.toDigits 10 n, c.isDigit = true :=
    fun c hc => Nat.isDigit_of_mem_toDigits (by decide) (by decide) hc
  have hrest : rest.takeWhile Char.isDigit = [] ∧ rest.dropWhile Char.isDigit = rest := by
    cases rest with
    | nil => exact ⟨rfl, rfl⟩
    | cons c rest =>
      have hc : ¬ c.isDigit = true := by
        rcases h c rfl with rfl | rfl | rfl <;> decide
      exact ⟨List.takeWhile_cons_of_neg hc, List.dropWhile_cons_of_neg hc⟩
  rw [List.span_eq_takeWhile_dropWhile, List.takeWhile_append_of_pos hdigits, List.dropWhile_append_of_pos hdigits,
    hrest.1, hrest.2, List.append_nil]

theorem numberTail?_of_endsValue (rest : List Char) (h : EndsValue rest) :
    numberTail? rest = some (⟨[], none⟩, rest) := by
  cases rest with
  | nil => rfl
  | cons c rest => rcases h c rfl with rfl | rfl | rfl <;> rfl

section
variable {reading : Reading}

theorem number?_toDigits (negative : Bool) (n : Nat) (value : Int) (rest : List Char) (h : EndsValue rest)
    (hvalue : value = if negative then -(n : Int) else n) (hzero : negative = true → n ≠ 0)
    (hkept : reading.isInteger value = true) :
    number? reading negative (Nat.toDigits 10 n ++ rest) = some (.int value, rest) := by
  have hlead : ¬ ((Nat.toDigits 10 n).head? = some '0' ∧ (Nat.toDigits 10 n).length ≠ 1) := by
    rintro ⟨hhead, hlength⟩
    rw [eq_zero_of_head?_toDigits n hhead] at hlength
    exact hlength rfl
  have hnumber : numberOf? reading negative (Nat.toDigits 10 n) ⟨[], none⟩ = some (.int value) := by
    simp only [numberOf?, digitsValue_toDigits, ← hvalue]
    exact if_pos ⟨rfl, rfl, hkept, fun hboth => hzero hboth.1 hboth.2⟩
  obtain ⟨first, later, hdigits, -⟩ := exists_toDigits n
  rw [number?, span_toDigits n rest h]
  rw [hdigits] at hlead hnumber ⊢
  simp only [if_neg hlead, numberTail?_of_endsValue rest h, hnumber]
  rfl

/-! ## Single values -/

theorem atom?_digits (n : Nat) (rest : List Char) (h : EndsValue rest) (hkept : reading.isInteger n = true) :
    atom? reading (Nat.toDigits 10 n ++ rest) = some (.int n, rest) := by
  have hnumber := number?_toDigits false n n rest h rfl (by simp) hkept
  obtain ⟨c, later, hdigits, hall⟩ := exists_toDigits n
  have hne : ∀ d : Char, d.isDigit = false → c ≠ d := by
    rintro d hd rfl
    rw [hall c List.mem_cons_self] at hd
    exact absurd hd (by decide)
  rw [hdigits, List.cons_append] at hnumber ⊢
  rw [atom?.eq_3 _ _ _ (hne '"' rfl) (hne '-' rfl), if_neg (hne 'n' rfl), if_neg (hne 't' rfl), if_neg (hne 'f' rfl), hnumber]

theorem atomChars_text (value : String) : atomChars (.text value) = quoteChars value := rfl

theorem atom?_atomChars (value : Atom) (rest : List Char) (hkept : reading.KeepsAtom value) (h : EndsValue rest) :
    atom? reading (atomChars value ++ rest) = some (value, rest) := by
  cases value with
  | null => rfl
  | bool value => cases value <;> rfl
  | float value => exact hkept.elim
  | text value =>
    rw [atomChars_text, quoteChars_append, atom?.eq_1, stringBody_quoted]
    simp only [Option.map_some, String.ofList_toList]
  | int value =>
    cases value with
    | ofNat n => exact atom?_digits n rest h hkept
    | negSucc n => exact number?_toDigits true (n + 1) (.negSucc n) rest h rfl (fun _ => Nat.succ_ne_zero n) hkept

/-- A value begins with a character that no other part of the text begins with. -/
theorem exists_atomChars (value : Atom) (hkept : reading.KeepsAtom value) :
    ∃ c later, atomChars value = c :: later ∧ StartsValue c ∧ c ≠ '[' ∧ c ≠ '\x7b' := by
  cases value with
  | null => exact ⟨_, _, rfl, by decide⟩
  | bool value => cases value <;> exact ⟨_, _, rfl, by decide⟩
  | float value => exact hkept.elim
  | text value => exact ⟨_, _, rfl, by decide⟩
  | int value =>
    cases value with
    | negSucc n => exact ⟨_, _, rfl, by decide⟩
    | ofNat n =>
      obtain ⟨c, later, hdigits, hall⟩ := exists_toDigits n
      have hc := hall c List.mem_cons_self
      refine ⟨c, later, hdigits, startsValue_of_isDigit c hc, ?_, ?_⟩
      · rintro rfl
        exact absurd hc (by decide)
      · rintro rfl
        exact absurd hc (by decide)

/-! ## Values inside one another -/

@[simp] theorem chars_atom (value : Atom) : chars (.atom value) = atomChars value := rfl

@[simp] theorem chars_list_nil : chars (.list []) = ['[', ']'] := rfl

@[simp] theorem chars_list_cons (first : Datum) (others : List Datum) :
    chars (.list (first :: others)) = '[' :: (chars first ++ itemChars others) := rfl

@[simp] theorem chars_table_nil : chars (.table []) = ['\x7b', '\x7d'] := rfl

@[simp] theorem chars_table_cons (key : String) (value : Datum) (others : List (String × Datum)) :
    chars (.table ((key, value) :: others)) =
      '\x7b' :: (quoteChars key ++ ':' :: (chars value ++ entryChars others)) := rfl

@[simp] theorem itemChars_nil : itemChars [] = [']'] := rfl

@[simp] theorem itemChars_cons (item : Datum) (items : List Datum) :
    itemChars (item :: items) = ',' :: (chars item ++ itemChars items) := rfl

@[simp] theorem entryChars_nil : entryChars [] = ['\x7d'] := rfl

@[simp] theorem entryChars_cons (key : String) (value : Datum) (entries : List (String × Datum)) :
    entryChars ((key, value) :: entries) = ',' :: (quoteChars key ++ ':' :: (chars value ++ entryChars entries)) := rfl

/-! ## Steps of the reader -/

theorem value?_list (fuel levels : Nat) (rest : List Char) :
    value? reading (fuel + 1) (levels + 1) ('[' :: rest) =
      match skipSpace rest with
      | ']' :: rest => some (.list [], rest)
      | rest => (items? reading fuel levels rest).map fun (items, rest) => (.list items, rest) := rfl

theorem value?_table (fuel levels : Nat) (rest : List Char) :
    value? reading (fuel + 1) (levels + 1) ('\x7b' :: rest) =
      match skipSpace rest with
      | '\x7d' :: rest => some (.table [], rest)
      | rest => (entries? reading fuel levels rest).map fun (entries, rest) => (.table (reading.settle entries), rest) := rfl

theorem items?_of_value? {fuel depth : Nat} {text rest : List Char} {item : Datum}
    (h : value? reading fuel depth text = some (item, rest)) :
    items? reading (fuel + 1) depth text =
      match skipSpace rest with
      | ']' :: rest => some ([item], rest)
      | ',' :: rest => (items? reading fuel depth (skipSpace rest)).map fun (items, rest) => (item :: items, rest)
      | _ => none := by
  rw [items?.eq_2]
  exact h ▸ rfl

/-- The key of an entry is a quoted text, and a colon stands after it. -/
theorem entries?_of_value? {fuel depth : Nat} {text rest : List Char} {value : Datum} (key : String)
    (h : value? reading fuel depth (skipSpace text) = some (value, rest)) :
    entries? reading (fuel + 1) depth (quoteChars key ++ ':' :: text) =
      match skipSpace rest with
      | '\x7d' :: rest => some ([(key, value)], rest)
      | ',' :: rest => (entries? reading fuel depth (skipSpace rest)).map fun (entries, rest) => ((key, value) :: entries, rest)
      | _ => none := by
  rw [quoteChars_append, entries?.eq_2, stringBody_quoted]
  simp only [skipSpace_cons ':' _ rfl, String.ofList_toList]
  exact h ▸ rfl

/-- Below so many levels the datum is read from its text, whatever comes after it. -/
structure ReadsBack (reading : Reading) (depth : Nat) (datum : Datum) : Prop where
  begins : ∃ c later, chars datum = c :: later ∧ StartsValue c
  read : ∀ fuel rest, (chars datum).length ≤ fuel → EndsValue rest →
    value? reading fuel depth (chars datum ++ rest) = some (datum, rest)

theorem readsBack_atom (value : Atom) (depth : Nat) (hkept : reading.KeepsAtom value) :
    ReadsBack reading depth (.atom value) := by
  obtain ⟨c, later, hchars, hstart, hlist, htable⟩ := exists_atomChars value hkept
  refine ⟨⟨c, later, hchars, hstart⟩, fun fuel rest hfuel hrest => ?_⟩
  have hatom := atom?_atomChars value rest hkept hrest
  rw [chars_atom, hchars] at hfuel ⊢
  rw [hchars, List.cons_append] at hatom
  cases fuel with
  | zero => exact absurd hfuel (by simp)
  | succ fuel =>
    rw [List.cons_append, value?.eq_4 _ _ _ _ (by simp [hlist]) (by simp [htable]), hatom]
    rfl

/-- A comma and the bracket end an item. -/
theorem endsValue_itemChars (items : List Datum) (rest : List Char) : EndsValue (itemChars items ++ rest) := by
  cases items with
  | nil => exact endsValue_cons _ _ (.inr (.inl rfl))
  | cons item items => exact endsValue_cons _ _ (.inl rfl)

theorem endsValue_entryChars (entries : List (String × Datum)) (rest : List Char) :
    EndsValue (entryChars entries ++ rest) := by
  cases entries with
  | nil => exact endsValue_cons _ _ (.inr (.inr rfl))
  | cons entry entries => exact endsValue_cons _ _ (.inl rfl)

theorem items?_chars (depth : Nat) (first : Datum) (others : List Datum)
    (h : ∀ item ∈ first :: others, ReadsBack reading depth item) (fuel : Nat) (rest : List Char)
    (hfuel : (chars first ++ itemChars others).length ≤ fuel) :
    items? reading fuel depth (chars first ++ (itemChars others ++ rest)) = some (first :: others, rest) := by
  induction others generalizing first fuel with
  | nil =>
    cases fuel with
    | zero => simp at hfuel
    | succ fuel =>
      have hread := (h first List.mem_cons_self).read fuel (itemChars [] ++ rest)
        (by simp at hfuel; omega) (endsValue_itemChars [] rest)
      rw [items?_of_value? hread]
      rfl
  | cons item others ih =>
    cases fuel with
    | zero => simp at hfuel
    | succ fuel =>
      simp only [itemChars_cons, List.length_append, List.length_cons] at hfuel
      obtain ⟨c, later, hchars, hstart⟩ := (h item (by simp)).begins
      have hread := (h first List.mem_cons_self).read fuel (itemChars (item :: others) ++ rest) (by omega)
        (endsValue_itemChars _ rest)
      have hlater := ih item (fun other hother => h other (List.mem_cons_of_mem _ hother)) fuel
        (by rw [List.length_append]; omega)
      have hspace : skipSpace (chars item ++ (itemChars others ++ rest)) = chars item ++ (itemChars others ++ rest) := by
        rw [hchars]
        exact skipSpace_cons c _ hstart.1
      rw [items?_of_value? hread]
      simp only [itemChars_cons, List.cons_append, List.append_assoc, skipSpace_cons ',' _ rfl, hspace, hlater]
      rfl

theorem readsBack_list (levels : Nat) (items : List Datum) (h : ∀ item ∈ items, ReadsBack reading levels item) :
    ReadsBack reading (levels + 1) (.list items) := by
  cases items with
  | nil =>
    refine ⟨⟨_, _, rfl, by decide⟩, fun fuel rest hfuel hrest => ?_⟩
    cases fuel with
    | zero => simp at hfuel
    | succ fuel => rfl
  | cons first others =>
    refine ⟨⟨_, _, rfl, by decide⟩, fun fuel rest hfuel hrest => ?_⟩
    obtain ⟨c, later, hchars, hstart⟩ := (h first List.mem_cons_self).begins
    cases fuel with
    | zero => simp at hfuel
    | succ fuel =>
      have hitems := items?_chars levels first others h fuel rest (by simpa using hfuel)
      rw [chars_list_cons, List.cons_append, List.append_assoc, value?_list]
      rw [hchars, List.cons_append] at hitems ⊢
      rw [skipSpace_cons c _ hstart.1]
      split
      · rename_i hclose
        exact absurd (List.cons.inj hclose).1 hstart.2.1
      · rw [hitems]
        rfl

/-- A key with its value, and the entries after it. -/
theorem entries?_chars (depth : Nat) (key : String) (value : Datum) (others : List (String × Datum))
    (h : ∀ entry ∈ (key, value) :: others, ReadsBack reading depth entry.2) (fuel : Nat) (rest : List Char)
    (hfuel : (chars value ++ entryChars others).length ≤ fuel) :
    entries? reading fuel depth (quoteChars key ++ ':' :: (chars value ++ (entryChars others ++ rest))) =
      some ((key, value) :: others, rest) := by
  induction others generalizing key value fuel with
  | nil =>
    cases fuel with
    | zero => simp at hfuel
    | succ fuel =>
      obtain ⟨c, later, hchars, hstart⟩ := (h (key, value) List.mem_cons_self).begins
      have hread := (h (key, value) List.mem_cons_self).read fuel (entryChars [] ++ rest)
        (by simp at hfuel ⊢; omega) (endsValue_entryChars [] rest)
      dsimp only at hchars hread
      have hspace : skipSpace (chars value ++ (entryChars [] ++ rest)) = chars value ++ (entryChars [] ++ rest) := by
        rw [hchars]
        exact skipSpace_cons c _ hstart.1
      rw [← hspace] at hread
      rw [entries?_of_value? key hread]
      rfl
  | cons entry others ih =>
    obtain ⟨nextKey, nextValue⟩ := entry
    cases fuel with
    | zero => simp at hfuel
    | succ fuel =>
      simp only [entryChars_cons, List.length_append, List.length_cons] at hfuel
      obtain ⟨c, later, hchars, hstart⟩ := (h (key, value) List.mem_cons_self).begins
      have hread := (h (key, value) List.mem_cons_self).read fuel (entryChars ((nextKey, nextValue) :: others) ++ rest)
        (by dsimp only; omega) (endsValue_entryChars _ rest)
      have hlater := ih nextKey nextValue (fun other hother => h other (List.mem_cons_of_mem _ hother)) fuel
        (by rw [List.length_append]; omega)
      dsimp only at hchars hread
      have hspace : skipSpace (chars value ++ (entryChars ((nextKey, nextValue) :: others) ++ rest)) =
          chars value ++ (entryChars ((nextKey, nextValue) :: others) ++ rest) := by
        rw [hchars]
        exact skipSpace_cons c _ hstart.1
      have hkey : ∀ text, skipSpace (quoteChars nextKey ++ text) = quoteChars nextKey ++ text := by
        intro text
        exact skipSpace_cons '"' _ rfl
      rw [← hspace] at hread
      rw [entries?_of_value? key hread]
      simp only [entryChars_cons, List.cons_append, List.append_assoc, skipSpace_cons ',' _ rfl, hkey, hlater]
      rfl

theorem readsBack_table (levels : Nat) (entries : List (String × Datum)) (hsettled : reading.settle entries = entries)
    (h : ∀ entry ∈ entries, ReadsBack reading levels entry.2) : ReadsBack reading (levels + 1) (.table entries) := by
  cases entries with
  | nil =>
    refine ⟨⟨_, _, rfl, by decide⟩, fun fuel rest hfuel hrest => ?_⟩
    cases fuel with
    | zero => simp at hfuel
    | succ fuel => rfl
  | cons entry others =>
    obtain ⟨key, value⟩ := entry
    refine ⟨⟨_, _, rfl, by decide⟩, fun fuel rest hfuel hrest => ?_⟩
    cases fuel with
    | zero => simp at hfuel
    | succ fuel =>
      have hentries := entries?_chars levels key value others h fuel rest (by
        simp only [chars_table_cons, List.length_cons, List.length_append] at hfuel ⊢
        omega)
      have hkey : ∀ text, skipSpace (quoteChars key ++ text) = quoteChars key ++ text := by
        intro text
        exact skipSpace_cons '"' _ rfl
      rw [chars_table_cons, List.cons_append, List.append_assoc, List.cons_append, List.append_assoc,
        value?_table, hkey]
      split
      · rename_i hclose
        exact absurd (List.cons.inj hclose).1 (by decide)
      · rw [hentries]
        simp only [Option.map_some, hsettled]

/-- By induction on the levels: what stands in a list or a table is one level further down. -/
theorem readsBack_of_keeps (levels depth : Nat) (hdepth : levels ≤ depth) (datum : Datum)
    (hkept : reading.Keeps levels datum) : ReadsBack reading depth datum := by
  induction levels generalizing depth datum with
  | zero =>
    cases datum with
    | atom value => exact readsBack_atom value depth hkept
    | list items => exact hkept.elim
    | table entries => exact hkept.elim
  | succ levels ih =>
    cases depth with
    | zero => exact absurd hdepth (Nat.not_succ_le_zero levels)
    | succ depth =>
      have hdepth := Nat.le_of_succ_le_succ hdepth
      cases datum with
      | atom value => exact readsBack_atom value (depth + 1) hkept
      | list items => exact readsBack_list depth items fun item hitem => ih depth hdepth item (hkept item hitem)
      | table entries =>
        exact readsBack_table depth entries hkept.1 fun entry hentry => ih depth hdepth entry.2 (hkept.2 entry hentry)

end

/-- The reader says of the text of a datum what the datum was. -/
theorem read?_write (reading : Reading) (levels : Nat) (hdepth : levels ≤ depthLimit) (datum : Datum)
    (hkept : reading.Keeps levels datum) : reading.read? (write datum) = some datum := by
  have hback := readsBack_of_keeps levels depthLimit hdepth datum hkept
  obtain ⟨c, later, hchars, hstart⟩ := hback.begins
  have hspace : skipSpace (chars datum) = chars datum := by
    rw [hchars]
    exact skipSpace_cons c later hstart.1
  have hread := hback.read (2 * (chars datum).length + 2) [] (by omega) endsValue_nil
  rw [List.append_nil] at hread
  simp only [Reading.read?, write, String.toList_ofList, hspace, hread]
  rfl

/-! ## Lines -/

/-- No line break or other control character is among them. -/
def IsOneLine (text : List Char) : Prop :=
  ∀ c ∈ text, 0x20 ≤ c.toNat

instance (text : List Char) : Decidable (IsOneLine text) :=
  List.decidableBAll (fun c : Char => 0x20 ≤ c.toNat) text

theorem isOneLine_nil : IsOneLine [] := nofun

theorem isOneLine_cons (c : Char) (text : List Char) : IsOneLine (c :: text) ↔ 0x20 ≤ c.toNat ∧ IsOneLine text :=
  List.forall_mem_cons

theorem isOneLine_append (front back : List Char) : IsOneLine (front ++ back) ↔ IsOneLine front ∧ IsOneLine back :=
  List.forall_mem_append

theorem IsOneLine.not_mem {text : List Char} (h : IsOneLine text) : '\n' ∉ text :=
  fun hline => absurd (h '\n' hline) (by decide)

theorem isOneLine_toDigits (n : Nat) : IsOneLine (Nat.toDigits 10 n) := by
  intro c hc
  have hdigit := Nat.isDigit_of_mem_toDigits (by decide) (by decide) hc
  simp only [Char.isDigit, Bool.and_eq_true, decide_eq_true_eq] at hdigit
  exact Nat.le_trans (by decide) hdigit.1

section
variable {reading : Reading}

theorem isOneLine_atomChars (value : Atom) (hkept : reading.KeepsAtom value) : IsOneLine (atomChars value) := by
  cases value with
  | null => exact (by decide : IsOneLine "null".toList)
  | bool value =>
    cases value with
    | true => exact (by decide : IsOneLine "true".toList)
    | false => exact (by decide : IsOneLine "false".toList)
  | float value => exact hkept.elim
  | text value => exact le_toNat_of_mem_quoteChars value
  | int value =>
    cases value with
    | ofNat n => exact isOneLine_toDigits n
    | negSucc n => exact (isOneLine_cons _ _).2 ⟨by decide, isOneLine_toDigits (n + 1)⟩

theorem isOneLine_itemChars (items : List Datum) (h : ∀ item ∈ items, IsOneLine (chars item)) :
    IsOneLine (itemChars items) := by
  induction items with
  | nil => exact (isOneLine_cons _ _).2 ⟨by decide, isOneLine_nil⟩
  | cons item items ih =>
    rw [List.forall_mem_cons] at h
    rw [itemChars_cons, isOneLine_cons, isOneLine_append]
    exact ⟨by decide, h.1, ih h.2⟩

theorem isOneLine_entryChars (entries : List (String × Datum)) (h : ∀ entry ∈ entries, IsOneLine (chars entry.2)) :
    IsOneLine (entryChars entries) := by
  induction entries with
  | nil => exact (isOneLine_cons _ _).2 ⟨by decide, isOneLine_nil⟩
  | cons entry entries ih =>
    obtain ⟨key, value⟩ := entry
    rw [List.forall_mem_cons] at h
    rw [entryChars_cons, isOneLine_cons, isOneLine_append, isOneLine_cons, isOneLine_append]
    exact ⟨by decide, le_toNat_of_mem_quoteChars key, by decide, h.1, ih h.2⟩

theorem isOneLine_chars (levels : Nat) (datum : Datum) (hkept : reading.Keeps levels datum) : IsOneLine (chars datum) := by
  induction levels generalizing datum with
  | zero =>
    cases datum with
    | atom value => exact isOneLine_atomChars value hkept
    | list items => exact hkept.elim
    | table entries => exact hkept.elim
  | succ levels ih =>
    cases datum with
    | atom value => exact isOneLine_atomChars value hkept
    | list items =>
      have hitems := isOneLine_itemChars items fun item hitem => ih item (hkept item hitem)
      cases items with
      | nil => simp [isOneLine_cons, isOneLine_nil]
      | cons first others =>
        rw [itemChars_cons, isOneLine_cons] at hitems
        rw [chars_list_cons, isOneLine_cons]
        exact ⟨by decide, hitems.2⟩
    | table entries =>
      have hentries := isOneLine_entryChars entries fun entry hentry => ih entry.2 (hkept.2 entry hentry)
      cases entries with
      | nil => simp [isOneLine_cons, isOneLine_nil]
      | cons entry others =>
        obtain ⟨key, value⟩ := entry
        rw [entryChars_cons, isOneLine_cons] at hentries
        rw [chars_table_cons, isOneLine_cons]
        exact ⟨by decide, hentries.2⟩

end
end TypedStatement.Json
