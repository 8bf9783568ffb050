import TypedStatement.Proofs.Model.Parts

/-!
# Placeholders in the query

A parameter is written as `$` and its number, in decimal digits without an end mark.  Whoever reads the query takes the
longest run of digits after each `$`.  So the numbers come back as they were written exactly if no placeholder runs into
a digit that is written after it.

Models are looked at here as they come about: by pushing literals, columns and parameters in any order on the empty
model.  The main statement is `writesPlaceholders_of_pushes`.
-/

namespace TypedStatement
set_option autoImplicit false

/-! ## Pushing parts -/

namespace Model

/-- Adds a part by the operation for its kind. -/
def pushPart (model : Model) : Part → Model
  | .literal text => model.pushLiteral text
  | .column column => model.pushColumn column
  | .bind bind => model.pushBind bind

/-- The model after all parts were pushed on the empty one, one after the other. -/
def pushAll (parts : List Part) : Model :=
  parts.foldl pushPart empty

theorem pushPart_eq (model : Model) (part : Part) : model.pushPart part = model.addParts [part] := by
  cases part with
  | literal text => exact (addParts_literal model text).symm
  | column column => exact (addParts_classified model (.column column)).symm
  | bind bind => exact (addParts_classified model (.bind bind)).symm

theorem foldl_pushPart (parts : List Part) (model : Model) :
    parts.foldl pushPart model = model.addParts parts := by
  induction parts generalizing model with
  | nil => rw [List.foldl_nil, addParts_nil]
  | cons part parts ih => rw [List.foldl_cons, ih, pushPart_eq, ← addParts_cons]

theorem pushAll_eq_ofParts (parts : List Part) : pushAll parts = ofParts parts :=
  foldl_pushPart parts empty

end Model

/-! ## The characters of the query -/

/-- The characters of the parts in the query when `before` parameters stand in front of them. -/
def charsAfter (before : Nat) (parts : List Part) : List Char :=
  (textsAfter before parts).flatMap String.toList

theorem toList_sql_pushAll (parts : List Part) : (Model.pushAll parts).sql.toList = charsAfter 0 parts := by
  rw [Model.pushAll_eq_ofParts, Model.ofParts_sql, String.toList_join]
  rfl

theorem charsAfter_cons (before : Nat) (part : Part) (parts : List Part) :
    charsAfter before (part :: parts) =
      (part.text (before + 1)).toList ++ charsAfter (before + (partBinds [part]).length) parts := by
  rw [charsAfter, textsAfter_cons, List.flatMap_cons]
  rfl

theorem charsAfter_append (before : Nat) (parts later : List Part) :
    charsAfter before (parts ++ later) =
      charsAfter before parts ++ charsAfter (before + (partBinds parts).length) later := by
  induction parts generalizing before with
  | nil => rfl
  | cons part parts ih =>
    have hbinds : (partBinds (part :: parts)).length = (partBinds [part]).length + (partBinds parts).length := by
      rw [← List.length_append, ← partBinds_append, List.singleton_append]
    rw [List.cons_append, charsAfter_cons, charsAfter_cons, ih, hbinds, List.append_assoc, Nat.add_assoc]

theorem charsAfter_bind (before : Nat) (bind : Bind) (parts : List Part) :
    charsAfter before (.bind bind :: parts) =
      '$' :: (Nat.toDigits 10 (before + 1) ++ charsAfter (before + 1) parts) := by
  rw [charsAfter_cons, Part.text, String.toList_append, Nat.toString_eq_repr, Nat.toList_repr]
  rfl

/-! ## Reading the numbers -/

/-- The numbers in a query: after each `$` the longest run of digits. -/
def placeholderNumbers : List Char → List Nat
  | [] => []
  | c :: rest =>
    if c = '$' then Nat.ofDigitChars 10 (rest.takeWhile Char.isDigit) 0 :: placeholderNumbers rest
    else placeholderNumbers rest

theorem placeholderNumbers_append (text rest : List Char) (h : '$' ∉ text) :
    placeholderNumbers (text ++ rest) = placeholderNumbers rest := by
  induction text with
  | nil => rfl
  | cons c text ih =>
    rw [List.mem_cons, not_or] at h
    rw [List.cons_append, placeholderNumbers, if_neg (Ne.symm h.1), ih h.2]

theorem dollar_notMem_toDigits (n : Nat) : '$' ∉ Nat.toDigits 10 n := by
  intro h
  exact absurd (Nat.isDigit_of_mem_toDigits (by decide) (by decide) h) (by decide)

theorem le_ofDigitChars (digits : List Char) (n : Nat) : n ≤ Nat.ofDigitChars 10 digits n := by
  induction digits generalizing n with
  | nil => exact Nat.le_refl n
  | cons c digits ih =>
    have hnext := ih (10 * n + (c.toNat - '0'.toNat))
    rw [Nat.ofDigitChars_cons]
    omega

/-- More digits make a greater number. -/
theorem ofDigitChars_eq_iff (digits : List Char) (n : Nat) (h : 0 < n) :
    Nat.ofDigitChars 10 digits n = n ↔ digits = [] := by
  constructor
  · intro hsame
    cases digits with
    | nil => rfl
    | cons c digits =>
      have hnext := le_ofDigitChars digits (10 * n + (c.toNat - '0'.toNat))
      rw [Nat.ofDigitChars_cons] at hsame
      omega
  · rintro rfl
    rfl

/-- A placeholder is read with all digits that follow it. -/
theorem placeholderNumbers_placeholder (n : Nat) (rest : List Char) :
    placeholderNumbers ('$' :: (Nat.toDigits 10 n ++ rest)) =
      Nat.ofDigitChars 10 (rest.takeWhile Char.isDigit) n :: placeholderNumbers rest := by
  have hdigits : ∀ c ∈ Nat.toDigits 10 n, c.isDigit = true :=
    fun c hc => Nat.isDigit_of_mem_toDigits (by decide) (by decide) hc
  rw [placeholderNumbers, if_pos rfl, placeholderNumbers_append _ _ (dollar_notMem_toDigits n),
    List.takeWhile_append_of_pos hdigits, Nat.ofDigitChars_append,
    Nat.ofDigitChars_toDigits (by decide) (by decide)]

/-- The text does not begin with a digit. -/
def NoDigitHead (text : List Char) : Prop :=
  ∀ c, text.head? = some c → c.isDigit = false

theorem takeWhile_isDigit_eq_nil_iff (text : List Char) :
    text.takeWhile Char.isDigit = [] ↔ NoDigitHead text := by
  cases text with
  | nil => simp [NoDigitHead]
  | cons c text => simp [NoDigitHead, List.takeWhile_cons]

/-! ## Parts without a `$` -/

/-- No text that the part brings along has a `$`. -/
def Part.HasNoDollar : Part → Prop
  | .literal text => '$' ∉ text.toList
  | .column c => '$' ∉ c.name.toList ∧ ∀ name, c.aliasName = some name → '$' ∉ name.toList
  | .bind _ => True

theorem Part.HasNoDollar.text {part : Part} (h : part.HasNoDollar) (number : Nat) (hbind : part.bind? = none) :
    '$' ∉ (part.text number).toList := by
  cases part with
  | literal text => exact h
  | column c =>
    obtain ⟨hname, halias⟩ := h
    rw [Part.text, String.toList_append, List.mem_append, not_or]
    refine ⟨hname, ?_⟩
    cases hcase : c.aliasName with
    | none => simp
    | some name =>
      rw [String.toList_append, List.mem_append, not_or]
      exact ⟨by decide, halias name hcase⟩
  | bind b => exact absurd hbind (by simp [Part.bind?])

theorem charsAfter_other (before : Nat) (part : Part) (parts : List Part) (h : part.bind? = none) :
    charsAfter before (part :: parts) = (part.text (before + 1)).toList ++ charsAfter before parts := by
  rw [charsAfter_cons, partBinds_cons, h]
  rfl

theorem partBinds_other (part : Part) (parts : List Part) (h : part.bind? = none) :
    partBinds (part :: parts) = partBinds parts := by
  rw [partBinds_cons, h]
  rfl

theorem exists_bind_of_bind? (part : Part) (h : part.bind? ≠ none) : ∃ bind, part = .bind bind := by
  cases part with
  | literal text => exact absurd rfl h
  | column column => exact absurd rfl h
  | bind bind => exact ⟨bind, rfl⟩

theorem count_dollar_charsAfter (before : Nat) (parts : List Part) (h : ∀ part ∈ parts, part.HasNoDollar) :
    (charsAfter before parts).count '$' = (partBinds parts).length := by
  induction parts generalizing before with
  | nil => rfl
  | cons part parts ih =>
    obtain ⟨hpart, hparts⟩ := List.forall_mem_cons.1 h
    by_cases hbind : part.bind? = none
    · rw [charsAfter_other _ _ _ hbind, partBinds_other _ _ hbind, List.count_append,
        List.count_eq_zero.2 (hpart.text _ hbind), ih _ hparts, Nat.zero_add]
    · obtain ⟨bind, rfl⟩ := exists_bind_of_bind? part hbind
      have hdigits := List.count_eq_zero.2 (dollar_notMem_toDigits (before + 1))
      rw [charsAfter_bind, List.count_cons_self, List.count_append, hdigits, ih _ hparts, partBinds_cons, Nat.zero_add]
      rfl

/-! ## Placeholders that end -/

/-- No placeholder of the parts is followed by a digit. -/
def PlaceholdersEnd (before : Nat) (parts : List Part) : Prop :=
  ∀ front bind later, parts = front ++ .bind bind :: later →
    NoDigitHead (charsAfter (before + (partBinds front).length + 1) later)

theorem placeholdersEnd_other (before : Nat) (part : Part) (parts : List Part) (h : part.bind? = none) :
    PlaceholdersEnd before (part :: parts) ↔ PlaceholdersEnd before parts := by
  constructor
  · intro hend front bind later hsplit
    have hmore := hend (part :: front) bind later (by rw [hsplit]; rfl)
    rwa [partBinds_other part front h] at hmore
  · intro hend front bind later hsplit
    cases front with
    | nil =>
      rw [(List.cons.inj hsplit).1] at h
      exact absurd h (by simp [Part.bind?])
    | cons first front =>
      obtain ⟨rfl, hrest⟩ := List.cons.inj hsplit
      rw [partBinds_other part front h]
      exact hend front bind later hrest

theorem placeholdersEnd_bind (before : Nat) (bind : Bind) (parts : List Part) :
    PlaceholdersEnd before (.bind bind :: parts) ↔
      NoDigitHead (charsAfter (before + 1) parts) ∧ PlaceholdersEnd (before + 1) parts := by
  have hcount : ∀ front : List Part,
      before + (partBinds (.bind bind :: front)).length = before + 1 + (partBinds front).length := by
    intro front
    rw [partBinds_cons, List.length_append, ← Nat.add_assoc]
    rfl
  constructor
  · intro hend
    refine ⟨hend [] bind parts rfl, ?_⟩
    intro front other later hsplit
    have hmore := hend (.bind bind :: front) other later (by rw [hsplit]; rfl)
    rwa [hcount] at hmore
  · rintro ⟨hhead, hend⟩ front other later hsplit
    cases front with
    | nil =>
      rw [← (List.cons.inj hsplit).2]
      exact hhead
    | cons first front =>
      obtain ⟨rfl, hrest⟩ := List.cons.inj hsplit
      rw [hcount]
      exact hend front other later hrest

/-- The numbers come back exactly if no placeholder is followed by a digit. -/
theorem placeholderNumbers_charsAfter (before : Nat) (parts : List Part) (h : ∀ part ∈ parts, part.HasNoDollar) :
    placeholderNumbers (charsAfter before parts) = List.range' (before + 1) (partBinds parts).length ↔
      PlaceholdersEnd before parts := by
  induction parts generalizing before with
  | nil => simp [charsAfter, textsAfter_nil, placeholderNumbers, partBinds, PlaceholdersEnd]
  | cons part parts ih =>
    obtain ⟨hpart, hparts⟩ := List.forall_mem_cons.1 h
    by_cases hbind : part.bind? = none
    · rw [charsAfter_other _ _ _ hbind, placeholderNumbers_append _ _ (hpart.text _ hbind), partBinds_other _ _ hbind,
        placeholdersEnd_other _ _ _ hbind]
      exact ih before hparts
    · obtain ⟨bind, rfl⟩ := exists_bind_of_bind? part hbind
      have hlength : (partBinds (.bind bind :: parts)).length = (partBinds parts).length + 1 := by
        rw [partBinds_cons, List.length_append, Nat.add_comm]
        rfl
      rw [charsAfter_bind, placeholderNumbers_placeholder, hlength, List.range'_succ, List.cons.injEq,
        ofDigitChars_eq_iff _ _ (Nat.succ_pos before), takeWhile_isDigit_eq_nil_iff, ih (before + 1) hparts,
        placeholdersEnd_bind]

/-! ## The query after pushes -/

/-- What the query says of the parameters that were pushed. -/
structure WritesPlaceholders (parts : List Part) : Prop where
  /-- The numbers are read as they were written exactly if no placeholder is followed by a digit. -/
  numbers_iff : placeholderNumbers (Model.pushAll parts).sql.toList = List.range' 1 (partBinds parts).length ↔
    ∀ before bind after rest, parts = before ++ .bind bind :: after →
      (Model.pushAll parts).sql.toList = (Model.pushAll (before ++ [.bind bind])).sql.toList ++ rest →
      NoDigitHead rest
  count : (Model.pushAll parts).sql.toList.count '$' = (partBinds parts).length
  /-- Every push leaves the query as it is and writes after it. -/
  grows : ∀ before part after, parts = before ++ part :: after →
    (Model.pushAll before).sql.toList <+: (Model.pushAll (before ++ [part])).sql.toList ∧
    (Model.pushAll (before ++ [part])).sql.toList <+: (Model.pushAll parts).sql.toList
  /-- A parameter is written with its number when it is pushed. -/
  written : ∀ before bind after, parts = before ++ .bind bind :: after →
    (Model.pushAll (before ++ [.bind bind])).sql =
      (Model.pushAll before).sql ++ "$" ++ toString ((partBinds before).length + 1)

/-- The query of the first parts is where the query of all begins. -/
theorem toList_sql_pushAll_append (parts later : List Part) :
    (Model.pushAll (parts ++ later)).sql.toList =
      (Model.pushAll parts).sql.toList ++ charsAfter (partBinds parts).length later := by
  rw [toList_sql_pushAll, toList_sql_pushAll, charsAfter_append, Nat.zero_add]

theorem length_partBinds_concat (parts : List Part) (bind : Bind) :
    (partBinds (parts ++ [.bind bind])).length = (partBinds parts).length + 1 := by
  rw [partBinds_append, List.length_append]
  rfl

theorem sql_pushAll_bind (parts : List Part) (bind : Bind) :
    (Model.pushAll (parts ++ [.bind bind])).sql =
      (Model.pushAll parts).sql ++ "$" ++ toString ((partBinds parts).length + 1) := by
  have hbinds : (Model.pushAll parts).binds = partBinds parts := by
    rw [Model.pushAll_eq_ofParts, Model.ofParts_binds]
  rw [← hbinds, Model.pushAll, List.foldl_append]
  rfl

theorem writesPlaceholders (parts : List Part) (h : ∀ part ∈ parts, part.HasNoDollar) :
    WritesPlaceholders parts where
  numbers_iff := by
    have hrest : ∀ before bind after, parts = before ++ .bind bind :: after →
        (Model.pushAll parts).sql.toList = (Model.pushAll (before ++ [.bind bind])).sql.toList ++
          charsAfter (0 + (partBinds before).length + 1) after := by
      rintro before bind after rfl
      rw [List.append_cons before _ after, toList_sql_pushAll_append, length_partBinds_concat, Nat.zero_add]
    have hnumbers := placeholderNumbers_charsAfter 0 parts h
    rw [Nat.zero_add, ← toList_sql_pushAll] at hnumbers
    rw [hnumbers]
    constructor
    · intro hend before bind after rest hsplit hsame
      rw [← List.append_cancel_left ((hrest before bind after hsplit).symm.trans hsame)]
      exact hend before bind after hsplit
    · intro hend before bind after hsplit
      exact hend before bind after _ hsplit (hrest before bind after hsplit)
  count := by
    rw [toList_sql_pushAll]
    exact count_dollar_charsAfter 0 parts h
  grows := by
    rintro before part after rfl
    rw [List.append_cons before part after]
    exact ⟨⟨_, (toList_sql_pushAll_append before [part]).symm⟩,
      ⟨_, (toList_sql_pushAll_append (before ++ [part]) after).symm⟩⟩
  written := by
    intro before bind after _
    exact sql_pushAll_bind before bind

/-- Whatever is pushed without a `$` in its texts, the query shows the parameters as `WritesPlaceholders` says; and the
model of a template that is compiled comes about by such pushes, one for each of its segments. -/
theorem writesPlaceholders_of_pushes :
    (∀ parts : List Part, (∀ part ∈ parts, part.HasNoDollar) → WritesPlaceholders parts) ∧
      ∀ template model, compile template = .ok model → ∃ segments parts, Template.scan template = .ok segments ∧
        List.Forall₂ Part.Of segments parts ∧ model = Model.pushAll parts := by
  refine ⟨writesPlaceholders, ?_⟩
  intro template model h
  obtain ⟨segments, parts, hscan, hparts, rfl⟩ := (compile_eq_ok_iff template model).1 h
  exact ⟨segments, parts, hscan, hparts, (Model.pushAll_eq_ofParts parts).symm⟩

/-- A parameter, a literal that begins with a digit, and another parameter. -/
def fusedParts : List Part :=
  [.bind ⟨"a", ⟨"i64", .int64, false⟩, ⟨0, 14⟩⟩, .literal "0 = ", .bind ⟨"b", ⟨"i64", .int64, false⟩, ⟨18, 32⟩⟩]

theorem fusedParts_hasNoDollar : ∀ part ∈ fusedParts, part.HasNoDollar := by
  simp [fusedParts, Part.HasNoDollar]

theorem writesPlaceholders_of_pushes_fused :
    (Model.pushAll fusedParts).sql = "$10 = $2" ∧
      placeholderNumbers (Model.pushAll fusedParts).sql.toList ≠ List.range' 1 2 ∧
      (Model.pushAll fusedParts).sql.toList.count '$' = 2 := by
  have hsql : (Model.pushAll fusedParts).sql = "$10 = $2" := by decide
  have hwrites := writesPlaceholders_of_pushes.1 fusedParts fusedParts_hasNoDollar
  refine ⟨hsql, ?_, hwrites.count⟩
  intro hnumbers
  have hhead := hwrites.numbers_iff.1 hnumbers [] _ _ "0 = $2".toList rfl (by decide)
  exact absurd (hhead '0' (by decide)) (by decide)

end TypedStatement
