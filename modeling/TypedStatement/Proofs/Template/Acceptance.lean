import TypedStatement.Proofs.Template.Holes

/-!
# Which templates are accepted

`scanItems` reads one written item after the other, whatever follows it (`scanItems_written`), so a template is accepted
exactly if it is written in the grammar, and its segments are those that are meant (`scan_accepts_grammar`).
-/

namespace TypedStatement.Template
set_option autoImplicit false

open Text

/-! ## One item -/

theorem scanItems_nil (position : Nat) : scanItems position [] = .ok [] := by
  rw [scanItems]

theorem scanItems_cons (position : Nat) (c : Char) (rest : List Char) :
    scanItems position (c :: rest) =
      if c = '{' ∨ c = '}' then
        if rest.head? = some c then (scanItems (position + 2) rest.tail).map (.char c :: ·)
        else if c = '}' then .error ⟨.unmatchedBrace, ⟨position, position + 1⟩⟩
        else (readHole position rest).bind fun found => (scanItems found.2.stop found.2.rest).map (.hole found.1 :: ·)
      else (scanItems (position + c.utf8Size) rest).map (.char c :: ·) := by
  rw [scanItems]
  split
  · split
    · cases scanItems (position + 2) rest.tail <;> rfl
    split
    · rfl
    split
    · rename_i malformed hread
      rw [hread]
      rfl
    · rename_i hole body hread
      rw [hread]
      cases hlater : scanItems body.stop body.rest <;> simp [Except.bind, Except.map, hlater]
  · cases scanItems (position + c.utf8Size) rest <;> rfl

theorem scanItems_char (position : Nat) (c : Char) (rest : List Char) (h : c ≠ '{' ∧ c ≠ '}') :
    scanItems position (c :: rest) = (scanItems (position + c.utf8Size) rest).map (.char c :: ·) := by
  rw [scanItems_cons, if_neg (not_or.2 h)]

theorem scanItems_doubled (position : Nat) (c : Char) (rest : List Char) (h : c = '{' ∨ c = '}') :
    scanItems position (c :: c :: rest) = (scanItems (position + 2) rest).map (.char c :: ·) := by
  rw [scanItems_cons, if_pos h, List.head?_cons, if_pos rfl, List.tail_cons]

theorem scanItems_opening (position : Nat) (text : List Char) (hhead : text.head? ≠ some '{') :
    scanItems position ('{' :: text) =
      (readHole position text).bind fun found => (scanItems found.2.stop found.2.rest).map (.hole found.1 :: ·) := by
  rw [scanItems_cons, if_pos (.inl rfl), if_neg hhead, if_neg (by decide)]

theorem scanItems_hole (position : Nat) (text : List Char) (hole : Hole) (body : Body) (hhead : text.head? ≠ some '{')
    (h : readHole position text = .ok (hole, body)) :
    scanItems position ('{' :: text) = (scanItems body.stop body.rest).map (.hole hole :: ·) := by
  rw [scanItems_opening position text hhead, h]
  rfl

theorem scanItems_unmatched (position : Nat) (rest : List Char) (h : rest.head? ≠ some '}') :
    scanItems position ('}' :: rest) = .error ⟨.unmatchedBrace, ⟨position, position + 1⟩⟩ := by
  rw [scanItems_cons, if_pos (.inr rfl), if_neg h, if_pos rfl]

theorem scanItems_hole_error (position : Nat) (text : List Char) (malformed : Malformed)
    (hhead : text.head? ≠ some '{') (h : readHole position text = .error malformed) :
    scanItems position ('{' :: text) = .error malformed := by
  rw [scanItems_opening position text hhead, h]
  rfl

/-- A written item is read as the item that is meant, and the reading goes on after it. -/
theorem scanItems_written (position : Nat) (written : Written) (item : Item) (rest : List Char)
    (hlegal : written.IsLegal) (hmeant : written.Denotes position item) :
    scanItems position (written.text ++ rest) =
      (scanItems (position + utf8Length written.text) rest).map (item :: ·) := by
  cases hmeant with
  | char c => exact scanItems_char position c rest hlegal
  | doubled c =>
    have hsize : utf8Length [c, c] = 2 := by rcases hlegal with rfl | rfl <;> rfl
    rw [Written.text, hsize]
    exact scanItems_doubled position c rest hlegal
  | hole pieces hole hhole =>
    obtain ⟨body, hstop, hrest, hread⟩ := readHole_body position pieces hole rest hlegal hhole
    rw [Written.text, utf8Length_braces, ← hstop, List.cons_append, List.append_assoc, List.singleton_append,
      scanItems_hole position _ hole body (head_bodyText 0 pieces rest hlegal.cut) hread, hrest]

/-- A template that is accepted is empty or goes on with a written item. -/
theorem exists_front_of_scanItems (position : Nat) (text : List Char) (items : List Item)
    (h : scanItems position text = .ok items) :
    text = [] ∨ ∃ written item rest, text = Written.text written ++ rest ∧ written.IsLegal ∧
      written.Denotes position item := by
  cases text with
  | nil => exact .inl rfl
  | cons c text =>
    refine .inr ?_
    by_cases hbrace : c = '{' ∨ c = '}'
    · by_cases hdouble : text.head? = some c
      · obtain ⟨rest, rfl⟩ := List.head?_eq_some_iff.1 hdouble
        exact ⟨.doubled c, .char c, rest, rfl, hbrace, .doubled c⟩
      · rcases hbrace with rfl | rfl
        · rw [scanItems_opening position text hdouble] at h
          cases hread : readHole position text with
          | error malformed =>
            rw [hread] at h
            exact absurd h (by simp [Except.bind])
          | ok found =>
            obtain ⟨pieces, hlegal, hmeant, htext⟩ := exists_body_of_readHole position text found.1 found.2 hread
            refine ⟨.hole pieces, .hole found.1, found.2.rest, ?_, hlegal, .hole pieces found.1 hmeant⟩
            rw [htext, Written.text, List.cons_append, List.append_assoc, List.singleton_append]
        · rw [scanItems_unmatched position text hdouble] at h
          exact absurd h (by simp)
    · rw [not_or] at hbrace
      exact ⟨.char c, .char c, text, rfl, hbrace, .char c⟩

/-! ## All items -/

theorem writtenText_cons (first : Written) (written : List Written) :
    writtenText (first :: written) = first.text ++ writtenText written := List.flatMap_cons

theorem writtenText_append (a b : List Written) : writtenText (a ++ b) = writtenText a ++ writtenText b :=
  List.flatMap_append

theorem DenotesAll.append {position : Nat} {a b : List Written} {x y : List Item} (ha : DenotesAll position a x)
    (hb : DenotesAll (position + utf8Length (writtenText a)) b y) : DenotesAll position (a ++ b) (x ++ y) := by
  induction ha with
  | nil position => exact hb
  | cons position first item written items hfirst _ ih =>
    rw [writtenText_cons, utf8Length_append, ← Nat.add_assoc] at hb
    exact .cons position first item _ _ hfirst (ih hb)

theorem DenotesAll.exists_append {position : Nat} {written : List Written} (a b : List Item)
    (h : DenotesAll position written (a ++ b)) :
    ∃ first second, written = first ++ second ∧ DenotesAll position first a ∧
      DenotesAll (position + utf8Length (writtenText first)) second b := by
  induction a generalizing position written with
  | nil => exact ⟨[], written, rfl, .nil position, h⟩
  | cons item a ih =>
    cases h with
    | cons _ front _ written _ hfront hrest =>
      obtain ⟨first, second, rfl, hfirst, hsecond⟩ := ih hrest
      refine ⟨front :: first, second, rfl, .cons position front item first a hfront hfirst, ?_⟩
      rw [writtenText_cons, utf8Length_append, ← Nat.add_assoc]
      exact hsecond

/-- Written items are read as the items that are meant, and the reading goes on after them. -/
theorem scanItems_writtenText (position : Nat) (written : List Written) (items : List Item) (rest : List Char)
    (hlegal : ∀ w ∈ written, w.IsLegal) (hmeant : DenotesAll position written items) :
    scanItems position (writtenText written ++ rest) =
      (scanItems (position + utf8Length (writtenText written)) rest).map (items ++ ·) := by
  induction hmeant with
  | nil position =>
    have hsame : position + utf8Length (writtenText []) = position := rfl
    rw [hsame]
    cases hscan : scanItems position rest with
    | error malformed => exact hscan
    | ok items => exact hscan
  | cons position first item written items hfirst _ ih =>
    have hrest := ih fun w hw => hlegal w (List.mem_cons_of_mem _ hw)
    rw [writtenText_cons, List.append_assoc,
      scanItems_written position first item _ (hlegal first List.mem_cons_self) hfirst, hrest, utf8Length_append,
      Nat.add_assoc]
    cases scanItems (position + (utf8Length first.text + utf8Length (writtenText written))) rest <;> rfl

theorem exists_written_of_scanItems (position : Nat) (text : List Char) (items : List Item)
    (h : scanItems position text = .ok items) :
    ∃ written, (∀ w ∈ written, w.IsLegal) ∧ writtenText written = text ∧ DenotesAll position written items := by
  induction hn : text.length using Nat.strong_induction_on generalizing position text items with
  | _ n ih =>
    rcases exists_front_of_scanItems position text items h with rfl | ⟨first, item, rest, rfl, hlegal, hmeant⟩
    · rw [scanItems_nil] at h
      rw [← Except.ok.inj h]
      exact ⟨[], by simp, rfl, .nil position⟩
    · rw [scanItems_written position first item rest hlegal hmeant, map_eq_ok_iff] at h
      obtain ⟨later, hlater, rfl⟩ := h
      have hshort : rest.length < n := by
        have hpos : 0 < first.text.length := by cases first <;> simp [Written.text]
        rw [← hn, List.length_append]
        omega
      obtain ⟨written, hall, rfl, hdenotes⟩ := ih _ hshort _ rest later hlater rfl
      refine ⟨first :: written, ?_, writtenText_cons first written, .cons _ _ _ _ _ hmeant hdenotes⟩
      intro w hw
      rcases List.mem_cons.1 hw with rfl | hw
      · exact hlegal
      · exact hall w hw

theorem exists_denotesAll (position : Nat) (written : List Written) (h : ∀ w ∈ written, w.IsLegal) :
    ∃ items, DenotesAll position written items := by
  induction written generalizing position with
  | nil => exact ⟨[], .nil position⟩
  | cons first written ih =>
    obtain ⟨items, hitems⟩ := ih (position + utf8Length first.text) fun w hw => h w (List.mem_cons_of_mem _ hw)
    have hfirst := h first List.mem_cons_self
    obtain ⟨item, hitem⟩ : ∃ item, first.Denotes position item := by
      cases first with
      | char c => exact ⟨_, .char c⟩
      | doubled c => exact ⟨_, .doubled c⟩
      | hole pieces =>
        obtain ⟨hole, hhole⟩ := exists_holeDenotes position pieces hfirst
        exact ⟨_, .hole pieces hole hhole⟩
    exact ⟨item :: items, .cons position first item written items hitem hitems⟩

/-! ## One way to read -/

/-- The first written item of a text can be told from the text. -/
theorem written_unique (a b : Written) (r s : List Char) (ha : a.IsLegal) (hb : b.IsLegal)
    (h : a.text ++ r = b.text ++ s) : a = b ∧ r = s := by
  -- the opening brace of a hole is not doubled
  have hopen : ∀ (pieces : List Piece) (c : Char) (r s : List Char), IsBody pieces →
      (Written.hole pieces).text ++ r ≠ (Written.doubled c).text ++ s := by
    intro pieces c r s hbody hsame
    simp only [Written.text, List.cons_append, List.append_assoc, List.nil_append] at hsame
    obtain ⟨rfl, hrest⟩ := List.cons.inj hsame
    apply head_bodyText 0 pieces r hbody.cut
    rw [hrest]
    rfl
  cases a with
  | char c =>
    cases b with
    | char d =>
      obtain ⟨hcd, hrs⟩ := List.cons.inj h
      exact ⟨by rw [hcd], hrs⟩
    | doubled d =>
      rw [← (List.cons.inj h).1] at hb
      rcases hb with hc | hc
      · exact absurd hc ha.1
      · exact absurd hc ha.2
    | hole pieces => exact absurd (List.cons.inj h).1 ha.1
  | doubled c =>
    cases b with
    | char d =>
      rw [← (List.cons.inj h).1] at hb
      rcases ha with hc | hc
      · exact absurd hc hb.1
      · exact absurd hc hb.2
    | doubled d =>
      obtain ⟨hcd, htail⟩ := List.cons.inj h
      exact ⟨by rw [hcd], (List.cons.inj htail).2⟩
    | hole pieces => exact absurd h.symm (hopen pieces c s r hb)
  | hole pieces =>
    cases b with
    | char d => exact absurd (List.cons.inj h).1.symm hb.1
    | doubled d => exact absurd h (hopen pieces d r s ha)
    | hole other =>
      simp only [Written.text, List.cons_append, List.append_assoc, List.nil_append, List.cons.injEq, true_and] at h
      obtain ⟨hpieces, hrs⟩ := body_unique pieces other r s ha.cut hb.cut h
      exact ⟨by rw [hpieces], hrs⟩

theorem Written.text_ne_nil (written : Written) : written.text ≠ [] := by
  cases written <;> simp [Written.text]

theorem writtenText_inj (a b : List Written) (ha : ∀ w ∈ a, w.IsLegal) (hb : ∀ w ∈ b, w.IsLegal)
    (h : writtenText a = writtenText b) : a = b := by
  induction a generalizing b with
  | nil =>
    cases b with
    | nil => rfl
    | cons first b => exact absurd (List.append_eq_nil_iff.1 h.symm).1 first.text_ne_nil
  | cons first a ih =>
    cases b with
    | nil => exact absurd (List.append_eq_nil_iff.1 h).1 first.text_ne_nil
    | cons other b =>
      obtain ⟨hfirst, hrest⟩ := written_unique first other _ _ (ha first List.mem_cons_self)
        (hb other List.mem_cons_self) h
      rw [hfirst, ih b (fun w hw => ha w (List.mem_cons_of_mem _ hw)) (fun w hw => hb w (List.mem_cons_of_mem _ hw))
        hrest]

/-! ## The grammar -/

theorem scan_eq_ok_iff (template : String) (segments : List Segment) :
    scan template = .ok segments ↔ ∃ items, scanItems 0 template.toList = .ok items ∧ segmentsOf items = segments :=
  map_eq_ok_iff segmentsOf _ segments

/-- A template that is written is read as the segments that are meant, and as nothing else. -/
theorem scan_eq_ok_iff_means (template : String) (written : List Written) (segments : List Segment)
    (h : IsTemplate written template.toList) : scan template = .ok segments ↔ Means written segments := by
  rw [scan_eq_ok_iff]
  constructor
  · rintro ⟨items, hitems, hsegments⟩
    obtain ⟨other, hlegal, htext, hdenotes⟩ := exists_written_of_scanItems 0 _ items hitems
    have hsame := writtenText_inj other written hlegal h.legal (htext.trans h.text.symm)
    obtain ⟨hseparated, hall⟩ := (segmentsOf_eq_iff items segments).1 hsegments
    rw [hsame, ← hall] at hdenotes
    exact ⟨hseparated, hdenotes⟩
  · rintro ⟨hseparated, hdenotes⟩
    have hrun := scanItems_writtenText 0 written _ [] h.legal hdenotes
    rw [List.append_nil, h.text, scanItems_nil] at hrun
    refine ⟨_, hrun, ?_⟩
    rw [segmentsOf_eq_iff]
    exact ⟨hseparated, (List.append_nil _).symm⟩

theorem exists_isTemplate_iff (template : String) :
    (∃ segments, scan template = .ok segments) ↔ ∃ written, IsTemplate written template.toList := by
  constructor
  · rintro ⟨segments, h⟩
    obtain ⟨items, hitems, -⟩ := (scan_eq_ok_iff template segments).1 h
    obtain ⟨written, hlegal, htext, -⟩ := exists_written_of_scanItems 0 _ items hitems
    exact ⟨written, hlegal, htext⟩
  · rintro ⟨written, h⟩
    obtain ⟨items, hitems⟩ := exists_denotesAll 0 written h.legal
    have hmeans : Means written (segmentsOf items) := by
      refine ⟨separated_segmentsOf items, ?_⟩
      rw [items_segmentsOf]
      exact hitems
    exact ⟨_, (scan_eq_ok_iff_means template written _ h).2 hmeans⟩

/-- A template is accepted exactly if it is written in the grammar; it is written in one way only, and read as the
segments that are meant. -/
theorem scan_accepts_grammar (template : String) :
    ((∃ segments, scan template = .ok segments) ↔ ∃ written, IsTemplate written template.toList) ∧
      (∀ a b, IsTemplate a template.toList → IsTemplate b template.toList → a = b) ∧
      ∀ written segments, IsTemplate written template.toList →
        (scan template = .ok segments ↔ Means written segments) := by
  refine ⟨exists_isTemplate_iff template, ?_, ?_⟩
  · intro a b ha hb
    exact writtenText_inj a b ha.legal hb.legal (ha.text.trans hb.text.symm)
  · intro written segments h
    exact scan_eq_ok_iff_means template written segments h

def bracesWritten : List Written :=
  [.hole [[.plain 'a']], .doubled '\x7d']

theorem bracesWritten_isTemplate : IsTemplate bracesWritten "\x7ba\x7d\x7d\x7d".toList where
  text := by decide
  legal := by
    intro item hitem
    simp only [bracesWritten, List.mem_cons, List.not_mem_nil, or_false] at hitem
    rcases hitem with rfl | rfl
    · have hcut : IsPiece (0 == 1) [.plain 'a'] := by decide
      refine ⟨hcut, by simp, ?_, ?_⟩
      · intro piece hpiece
        rw [← List.head_eq_of_cons_eq hpiece]
        decide
      · intro piece hpiece
        rw [List.mem_singleton.1 hpiece]
        rintro ⟨before, label, gap, after, htext, -⟩
        have hcolon : ':' ∈ Piece.text [.plain 'a'] := by
          rw [htext]
          simp
        exact absurd hcolon (by decide)
    · exact .inr rfl

theorem scan_accepts_grammar_braces :
    IsTemplate bracesWritten "\x7ba\x7d\x7d\x7d".toList ∧
      Means bracesWritten [.hole ⟨[⟨none, "a", ⟨1, 2⟩⟩], ⟨0, 3⟩⟩, .literal "\x7d"] ∧
      ¬ ∃ written, IsTemplate written "\x7ba\x7d\x7d\x7d\x7d".toList := by
  have hmeans := (scan_accepts_grammar "\x7ba\x7d\x7d\x7d").2.2 bracesWritten
    [.hole ⟨[⟨none, "a", ⟨1, 2⟩⟩], ⟨0, 3⟩⟩, .literal "\x7d"] bracesWritten_isTemplate
  refine ⟨bracesWritten_isTemplate, hmeans.1 (by decide +kernel), ?_⟩
  rw [← (scan_accepts_grammar "\x7ba\x7d\x7d\x7d\x7d").1]
  rintro ⟨segments, h⟩
  have hfails : scan "\x7ba\x7d\x7d\x7d\x7d" = .error ⟨.unmatchedBrace, ⟨5, 6⟩⟩ := by decide +kernel
  rw [hfails] at h
  exact absurd h (by simp)

end TypedStatement.Template
