import Gallery.Proofs.Query.NormalForm

/-!
# `Gallery.Proofs.Query.Labels` — labels are the words of queries

What may be the label of a tag and what a query can say are laid down in different places, the one
by its characters, the other by a grammar with keys, signs and white space.  They agree: the labels
are the texts that are read as a tag of that name, also where the label is the word of a key.

## Contents
- `parse_label`, a label is a query.
- `Expr.Writable`, what a text can say at a place of its query; `Expr.Readable.writable`.
- The result: `labels_are_words`.
-/

namespace Gallery.Query

variable {e : Expr} {l : String}

/-- A valid label is the text of the query for its tag. -/
theorem parse_label (h : isValidLabel l = true) : parse l = .ok (.tag l) := by
  have hwritten := (Expr.Readable.tag h).written (Nat.zero_le maxNesting)
  simp only [Expr.flat, Expr.render] at hwritten
  exact parse_eq_ok_iff.mpr hwritten

namespace Expr

/-! ## Places -/

/-- The labels of a query are those of the tags at its places. -/
theorem part_tag_iff : Part (tag l) e ↔ l ∈ e.occurrences := by
  constructor
  · intro h
    induction h with
    | self => exact List.mem_singleton_self l
    | neg _ ih => exact ih
    | all he _ ih => exact mem_occurrencesList.mpr ⟨_, he, ih⟩
    | any he _ ih => exact mem_occurrencesList.mpr ⟨_, he, ih⟩
  · intro h
    induction e using Expr.induction with
    | nothing | everything | metatag => exact absurd h List.not_mem_nil
    | tag m =>
      obtain rfl := List.mem_singleton.mp h
      exact .self _
    | neg e ih => exact .neg (ih h)
    | all es ih =>
      obtain ⟨e, he, hl⟩ := mem_occurrencesList.mp h
      exact .all he (ih e he hl)
    | any es ih =>
      obtain ⟨e, he, hl⟩ := mem_occurrencesList.mp h
      exact .any he (ih e he hl)

/-- What a text can say at a place of its query: labels are words, connectives join two or more
queries, and constants are not written. -/
def Writable : Expr → Prop
  | nothing | everything => False
  | tag l => isValidLabel l = true
  | metatag _ | neg _ => True
  | all es | any es => 2 ≤ es.length

theorem Readable.writable (h : e.Readable) : ∀ d, Part d e → d.Writable := by
  induction h with
  | tag hl =>
    rintro d ⟨⟩
    exact hl
  | metatag =>
    rintro d ⟨⟩
    exact trivial
  | neg _ ih =>
    intro d hd
    cases hd with
    | self => exact trivial
    | neg hd => exact ih d hd
  | all two _ ih =>
    intro d hd
    cases hd with
    | self => exact two
    | all he hd => exact ih _ he d hd
  | any two _ ih =>
    intro d hd
    cases hd with
    | self => exact two
    | any he hd => exact ih _ he d hd

end Expr

/-- The labels of parsed queries are valid. -/
theorem isValidLabel_of_parse {text : String} (h : parse text = .ok e) (hl : l ∈ e.occurrences) :
    isValidLabel l = true :=
  (parse_eq_ok_iff.mp h).readable.1.writable _ (Expr.part_tag_iff.mpr hl)

/-! ## The result -/

/-- **Labels are the words of queries.**  A text is valid as a label exactly if it is read as the
query for the tag of this name, so the tags that can be made are those that can be asked for by their
bare labels.  At every place of a query that is read there is what can be written: each of its
labels could be that of a tag, connectives join two or more queries, and there are no constants. -/
theorem labels_are_words :
    (∀ l, isValidLabel l = true ↔ parse l = .ok (.tag l))
      ∧ (∀ id l typeId definition,
          (∃ t, Tag.make id l typeId definition = .ok t) ↔ parse l = .ok (.tag l))
      ∧ ∀ text e, parse text = .ok e →
          (∀ d, Expr.Part d e → d.Writable) ∧ ∀ l ∈ e.occurrences, parse l = .ok (.tag l) := by
  have hlabel : ∀ l, isValidLabel l = true ↔ parse l = .ok (.tag l) := fun l =>
    ⟨parse_label, fun h => isValidLabel_of_parse h (List.mem_singleton_self l)⟩
  refine ⟨hlabel, fun id l typeId definition => ?_, fun text e h => ⟨?_, fun l hl => ?_⟩⟩
  · rw [← hlabel, Tag.make]
    constructor
    · rintro ⟨t, ht⟩
      split at ht
      · assumption
      · cases ht
    · intro hl
      exact ⟨_, if_pos hl⟩
  · exact (parse_eq_ok_iff.mp h).readable.1.writable
  · exact parse_label (isValidLabel_of_parse h hl)

/-- A query with the word of a key as a label, and a label that is no word of ASCII. -/
theorem labels_are_words_keys :
    parse "type(猫_2 + -name)" = .ok (.all [.tag "type", .any [.tag "猫_2", .neg (.tag "name")]])
      ∧ parse "猫_2" = .ok (.tag "猫_2") := by
  have h : parse "type(猫_2 + -name)"
      = .ok (.all [.tag "type", .any [.tag "猫_2", .neg (.tag "name")]]) := by
    decide +kernel
  exact ⟨h, (labels_are_words.2.2 _ _ h).2 "猫_2" (by decide)⟩

end Gallery.Query
