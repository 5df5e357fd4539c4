import Mathlib.Data.List.Infix
import ConstraintTree.Wording

/-!
# Filling a template

A template is cut at its placeholders, and filling it glues the pieces together
again with the path in between. That is all that is to know about `render`, which
leaves a template without a placeholder as it is and fills any other, as long as it
is clear where a template is cut. It is, because the placeholder has no
border: no proper end of it is also a beginning (`eq_placeholder_of_border`). Two
occurrences never overlap, so taking them from left to right or in any other order
makes no difference, and a text that is glued from pieces without a placeholder has
no placeholders but those that were put in.

The proofs go along a text as filling does: the text is empty, or there is a
placeholder in front, or there is a character in front with which no placeholder
begins (`Template.scan`).
-/

namespace ConstraintTree

namespace Template

/-- Cuts a text at every placeholder. There is always at least one piece. -/
def cut : List Char → List (List Char)
  | '$' :: 'p' :: 'r' :: 'o' :: 'p' :: rest => [] :: cut rest
  | c :: rest => (cut rest).modifyHead (c :: ·)
  | [] => [[]]

/-- In how many places a placeholder begins. -/
def occurrences (text : List Char) : Nat :=
  text.tails.countP (placeholder.isPrefixOf ·)

/-! ## Along a text -/

@[elab_as_elim]
theorem scan {P : List Char → Prop} (nil : P [])
    (found : ∀ rest, P rest → P (placeholder ++ rest))
    (char : ∀ c rest, ¬ placeholder <+: c :: rest → P rest → P (c :: rest)) : ∀ text, P text := by
  intro text
  induction text using cut.induct with
  | case1 rest ih => exact found rest ih
  | case2 c rest hnone ih =>
      refine char c rest (fun hbegins => ?_) ih
      obtain ⟨rest', hrest⟩ := hbegins
      cases hrest
      exact hnone rest' rfl rfl
  | case3 => exact nil

theorem cut_placeholder (rest : List Char) : cut (placeholder ++ rest) = [] :: cut rest := rfl

theorem fill_placeholder (path rest : List Char) :
    fill path (placeholder ++ rest) = path ++ fill path rest := rfl

variable {c : Char} {rest : List Char}

theorem cut_char (h : ¬ placeholder <+: c :: rest) :
    cut (c :: rest) = (cut rest).modifyHead (c :: ·) := by
  rw [cut.eq_def]
  split
  · next heq =>
      rw [heq] at h
      exact absurd (List.prefix_append placeholder _) h
  · next heq => cases heq; rfl
  · next heq => cases heq

theorem fill_char (path : List Char) (h : ¬ placeholder <+: c :: rest) :
    fill path (c :: rest) = c :: fill path rest := by
  rw [fill.eq_def]
  split
  · next heq =>
      rw [heq] at h
      exact absurd (List.prefix_append placeholder _) h
  · next heq => cases heq; rfl
  · next heq => cases heq

theorem occurrences_placeholder (rest : List Char) :
    occurrences (placeholder ++ rest) = occurrences rest + 1 := by
  simp [occurrences, placeholder, List.tails]

theorem occurrences_char (h : ¬ placeholder <+: c :: rest) :
    occurrences (c :: rest) = occurrences rest := by
  rw [occurrences, occurrences, List.tails, List.countP_cons_of_neg]
  rwa [List.isPrefixOf_iff_prefix]

/-! ## What filling does -/

theorem cut_ne_nil (text : List Char) : cut text ≠ [] := by
  induction text using scan with
  | nil => exact List.cons_ne_nil _ _
  | found rest => exact List.cons_ne_nil _ _
  | char c rest h ih =>
      rw [cut_char h]
      simpa using ih

theorem length_cut (text : List Char) : (cut text).length = occurrences text + 1 := by
  induction text using scan with
  | nil => rfl
  | found rest ih => rw [cut_placeholder, occurrences_placeholder, List.length_cons, ih]
  | char c rest h ih => rw [cut_char h, occurrences_char h, List.length_modifyHead, ih]

theorem fill_eq_intercalate (path text : List Char) :
    fill path text = path.intercalate (cut text) := by
  induction text using scan with
  | nil => rfl
  | found rest ih =>
      rw [fill_placeholder, cut_placeholder, List.intercalate_cons_of_ne_nil (cut_ne_nil rest), ih,
        List.nil_append]
  | char c rest h ih =>
      obtain ⟨piece, pieces, hcut⟩ := List.exists_cons_of_ne_nil (cut_ne_nil rest)
      rw [fill_char path h, cut_char h, ih, hcut, List.modifyHead_cons]
      cases pieces with
      | nil => simp
      | cons => simp [List.intercalate_cons_cons]

/-- A template is what comes of filling in the placeholder itself. -/
theorem fill_self (text : List Char) : fill placeholder text = text := by
  induction text using scan with
  | nil => rfl
  | found rest ih => rw [fill_placeholder, ih]
  | char c rest h ih => rw [fill_char placeholder h, ih]

theorem intercalate_cut (text : List Char) : placeholder.intercalate (cut text) = text := by
  rw [← fill_eq_intercalate, fill_self]

/-! ## Where a placeholder may begin -/

/-- A text in front of another one begins like the two together, as far as it goes. -/
theorem prefix_append_cases {p a b : List Char} (h : p <+: a ++ b) :
    p <+: a ∨ ∃ v, v ≠ [] ∧ a ++ v = p ∧ v <+: b := by
  rcases List.prefix_or_prefix_of_prefix h (List.prefix_append a b) with hp | ⟨v, rfl⟩
  · exact .inl hp
  · by_cases hv : v = []
    · subst hv
      rw [List.append_nil]
      exact .inl (List.prefix_refl a)
    · exact .inr ⟨v, hv, rfl, (List.prefix_append_right_inj a).mp h⟩

/-- No proper end of the placeholder is also a beginning of it. -/
theorem eq_placeholder_of_border {v : List Char} (hsuffix : v <:+ placeholder)
    (hbegins : v <+: placeholder) (hv : v ≠ []) : v = placeholder := by
  have hall : ∀ u ∈ placeholder.tails, u <+: placeholder → u ≠ [] → u = placeholder := by
    decide
  exact hall v ((List.mem_tails v placeholder).mpr hsuffix) hbegins hv

/-- Before a placeholder, no other one begins in a text without any. -/
theorem not_prefix_append_placeholder {u : List Char} (hfree : ¬ placeholder <+: u)
    (hu : u ≠ []) (rest : List Char) : ¬ placeholder <+: u ++ (placeholder ++ rest) := by
  intro h
  rcases prefix_append_cases h with hbegins | ⟨v, hv, happend, hbegins⟩
  · exact hfree hbegins
  · -- An occurrence that begins in the text would end in the placeholder behind it.
    have hlength : u.length + v.length = placeholder.length := by
      rw [← List.length_append, happend]
    have hshort : v <+: placeholder :=
      List.prefix_of_prefix_length_le hbegins (List.prefix_append _ _) (by omega)
    have heq := eq_placeholder_of_border ⟨u, happend⟩ hshort hv
    rw [heq] at hlength
    exact hu (List.length_eq_zero_iff.mp (by omega))

/-! ## The pieces -/

theorem prefix_intercalate (sep piece : List Char) (pieces : List (List Char)) :
    piece <+: sep.intercalate (piece :: pieces) := by
  cases pieces with
  | nil => rw [List.intercalate_singleton]
  | cons q pieces =>
      rw [List.intercalate_cons_cons, List.append_assoc]
      exact List.prefix_append _ _

theorem free_of_mem_cut (text : List Char) : ∀ s ∈ cut text, ¬ placeholder <:+: s := by
  induction text using scan with
  | nil => decide
  | found rest ih =>
      rw [cut_placeholder]
      exact List.forall_mem_cons.mpr ⟨by decide, ih⟩
  | char c rest h ih =>
      obtain ⟨piece, pieces, hcut⟩ := List.exists_cons_of_ne_nil (cut_ne_nil rest)
      have hfront : piece <+: rest := by
        rw [← intercalate_cut rest, hcut]
        exact prefix_intercalate _ _ _
      rw [hcut] at ih
      obtain ⟨hpiece, hpieces⟩ := List.forall_mem_cons.mp ih
      rw [cut_char h, hcut, List.modifyHead_cons]
      refine List.forall_mem_cons.mpr ⟨?_, hpieces⟩
      rw [List.infix_cons_iff, not_or]
      exact ⟨fun hbegins => h (hbegins.trans (List.cons_prefix_cons.mpr ⟨rfl, hfront⟩)), hpiece⟩

theorem cut_append_placeholder {s : List Char} (hs : ¬ placeholder <:+: s) (rest : List Char) :
    cut (s ++ (placeholder ++ rest)) = s :: cut rest := by
  induction s with
  | nil => rfl
  | cons c s ih =>
      rw [List.infix_cons_iff, not_or] at hs
      have hchar := not_prefix_append_placeholder hs.1 (List.cons_ne_nil c s) rest
      rw [List.cons_append] at hchar ⊢
      rw [cut_char hchar, ih hs.2, List.modifyHead_cons]

theorem cut_of_free {s : List Char} (hs : ¬ placeholder <:+: s) : cut s = [s] := by
  induction s with
  | nil => rfl
  | cons c s ih =>
      rw [List.infix_cons_iff, not_or] at hs
      rw [cut_char hs.1, ih hs.2, List.modifyHead_cons]

theorem hasPlaceholder_iff {text : List Char} : hasPlaceholder text ↔ placeholder <:+: text := by
  induction text with
  | nil => decide
  | cons c rest ih =>
      rw [hasPlaceholder, Bool.or_eq_true, List.isPrefixOf_iff_prefix, ih, List.infix_cons_iff]

/-- Filling changes nothing where there is no placeholder, so leaving such a template as
it is comes to the same. -/
theorem render_eq_ofList_fill (template path : String) :
    render template path = String.ofList (fill path.toList template.toList) := by
  rw [render]
  split
  · rfl
  · next hfree =>
      rw [hasPlaceholder_iff] at hfree
      rw [fill_eq_intercalate, cut_of_free hfree, List.intercalate_singleton, String.ofList_toList]

/-- Gluing pieces without a placeholder, and cutting, gives the pieces back. -/
theorem cut_intercalate {pieces : List (List Char)} (hne : pieces ≠ [])
    (hfree : ∀ s ∈ pieces, ¬ placeholder <:+: s) :
    cut (placeholder.intercalate pieces) = pieces := by
  induction pieces with
  | nil => exact absurd rfl hne
  | cons s pieces ih =>
      obtain ⟨hs, hpieces⟩ := List.forall_mem_cons.mp hfree
      by_cases hlast : pieces = []
      · rw [hlast, List.intercalate_singleton, cut_of_free hs]
      · rw [List.intercalate_cons_of_ne_nil hlast, List.append_assoc,
          cut_append_placeholder hs, ih hlast hpieces]

/-! ## Filling in parts -/

/-- The one text ends, and the other begins, within a placeholder. -/
def Straddles (a b : List Char) : Prop :=
  ∃ i < placeholder.length, 0 < i ∧ placeholder.take i <:+ a ∧ placeholder.drop i <+: b

instance (a b : List Char) : Decidable (Straddles a b) :=
  inferInstanceAs (Decidable (∃ i < _, _))

theorem Straddles.of_append {a b : List Char} (h : Straddles a b) (front : List Char) :
    Straddles (front ++ a) b := by
  obtain ⟨i, hi, hpos, htake, hdrop⟩ := h
  exact ⟨i, hi, hpos, htake.trans (List.suffix_append _ _), hdrop⟩

theorem not_prefix_append {u b : List Char} (hu : u ≠ []) (hfree : ¬ placeholder <+: u)
    (hb : ¬ Straddles u b) : ¬ placeholder <+: u ++ b := by
  intro h
  rcases prefix_append_cases h with hbegins | ⟨v, hv, happend, hbegins⟩
  · exact hfree hbegins
  · refine hb ⟨u.length, ?_, List.length_pos_iff.mpr hu, ?_, ?_⟩
    · rw [← happend, List.length_append]
      exact Nat.lt_add_of_pos_right (List.length_pos_iff.mpr hv)
    · rw [← happend, List.take_left]
    · rwa [← happend, List.drop_left]

theorem fill_append (path : List Char) {a b : List Char} (h : ¬ Straddles a b) :
    fill path (a ++ b) = fill path a ++ fill path b := by
  induction a using scan with
  | nil => rfl
  | found rest ih =>
      rw [List.append_assoc, fill_placeholder, fill_placeholder, List.append_assoc,
        ih fun hrest => h (hrest.of_append placeholder)]
  | char c rest hchar ih =>
      have hfront := not_prefix_append (List.cons_ne_nil c rest) hchar h
      rw [List.cons_append] at hfront ⊢
      rw [fill_char path hfront, fill_char path hchar, List.cons_append,
        ih fun hrest => h (hrest.of_append [c])]

/-! ## Templates as they are written -/

/-- Pieces of a template that have no placeholder in them and had one between any two. -/
structure IsCut (template : String) (pieces : List String) : Prop where
  ne_nil : pieces ≠ []
  free : ∀ s ∈ pieces, ¬ placeholder <:+: s.toList
  glue : "$prop".intercalate pieces = template

namespace IsCut

variable {template : String} {pieces pieces' : List String}

theorem cut_eq (h : IsCut template pieces) : cut template.toList = pieces.map String.toList := by
  rw [← h.glue, String.toList_intercalate]
  refine cut_intercalate (mt List.map_eq_nil_iff.mp h.ne_nil) ?_
  simpa using h.free

theorem unique (h : IsCut template pieces) (h' : IsCut template pieces') : pieces' = pieces :=
  (List.map_inj_right fun _ _ => String.toList_inj.mp).mp (h'.cut_eq.symm.trans h.cut_eq)

theorem length_eq (h : IsCut template pieces) :
    pieces.length = occurrences template.toList + 1 := by
  rw [← length_cut, h.cut_eq, List.length_map]

theorem render_eq (h : IsCut template pieces) (path : String) :
    render template path = path.intercalate pieces := by
  rw [← String.toList_inj, render_eq_ofList_fill, String.toList_ofList, fill_eq_intercalate,
    h.cut_eq, String.toList_intercalate]

end IsCut

theorem exists_isCut (template : String) : ∃ pieces, IsCut template pieces := by
  refine ⟨(cut template.toList).map String.ofList, ?_, ?_, ?_⟩
  · exact mt List.map_eq_nil_iff.mp (cut_ne_nil _)
  · simpa using free_of_mem_cut template.toList
  · have htoList : String.toList ∘ String.ofList = id := funext fun _ => String.toList_ofList
    rw [← String.toList_inj, String.toList_intercalate, List.map_map, htoList, List.map_id]
    exact intercalate_cut _

theorem render_append {a b : String} (h : ¬ Straddles a.toList b.toList) (path : String) :
    render (a ++ b) path = render a path ++ render b path := by
  rw [render_eq_ofList_fill, render_eq_ofList_fill, render_eq_ofList_fill, String.toList_append,
    fill_append _ h, String.ofList_append]

/-- There is one way to cut a template into pieces without a placeholder, with one more
piece than there are placeholders, and to fill the template is to put the path between
the pieces, whatever the path. So a template without a placeholder stays as it is, and
two templates may be filled one by one, unless their boundary cuts a placeholder. -/
theorem render_eq_intercalate :
    (∀ template, ∃! pieces, IsCut template pieces) ∧
    (∀ template pieces, IsCut template pieces →
      pieces.length = occurrences template.toList + 1 ∧
      ∀ path, render template path = path.intercalate pieces) ∧
    (∀ template, ¬ placeholder <:+: template.toList →
      ∀ path, render template path = template) ∧
    ∀ a b, ¬ Straddles a.toList b.toList →
      ∀ path, render (a ++ b) path = render a path ++ render b path := by
  refine ⟨fun template => ?_, fun _ _ h => ⟨h.length_eq, h.render_eq⟩, fun template h path => ?_,
    fun _ _ h => render_append h⟩
  · obtain ⟨pieces, h⟩ := exists_isCut template
    exact ⟨pieces, h, fun _ => h.unique⟩
  · exact if_neg (mt hasPlaceholder_iff.mp h)

/-- A beginning that comes to nothing, and a path that looks like a placeholder. -/
theorem render_eq_intercalate_nearMiss :
    IsCut "$pr$prop, $prop" ["$pr", ", ", ""] ∧
    (["$pr", ", ", ""].length = occurrences "$pr$prop, $prop".toList + 1 ∧
      render "$pr$prop, $prop" "op$prop" = "op$prop".intercalate ["$pr", ", ", ""]) ∧
    "op$prop".intercalate ["$pr", ", ", ""] = "$prop$prop, op$prop" ∧
    (¬ placeholder <:+: "$pr".toList ∧ render "$pr" "a.0" = "$pr") ∧
    ¬ Straddles "$pr".toList "$prop".toList ∧
    render ("$pr" ++ "$prop") "a.0" = render "$pr" "a.0" ++ render "$prop" "a.0" ∧
    Straddles "$pr".toList "op".toList := by
  have hcut : IsCut "$pr$prop, $prop" ["$pr", ", ", ""] := ⟨by decide, by decide, by decide⟩
  have hfree : ¬ placeholder <:+: "$pr".toList := by decide
  have hwhole : ¬ Straddles "$pr".toList "$prop".toList := by decide
  have hfilled := render_eq_intercalate.2.1 _ _ hcut
  exact ⟨hcut, ⟨hfilled.1, hfilled.2 _⟩, by decide, ⟨hfree, render_eq_intercalate.2.2.1 _ hfree _⟩,
    hwhole, render_eq_intercalate.2.2.2 _ _ hwhole _, by decide⟩

end Template

end ConstraintTree
