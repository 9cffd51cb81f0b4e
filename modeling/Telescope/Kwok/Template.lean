import Telescope.Kwok.Node
import Telescope.Text.Substitution

namespace Telescope.Kwok

open Telescope

/-! The rendering of manifest templates (`create_template`) as a simultaneous
substitution. -/

/-- A text without braces. -/
abbrev Plain := Unmarked '\x7b' '\x7d'

/-- A text in which braces occur only as the placeholders of keys without braces. -/
abbrev ManifestTemplate := Template '\x7b' '\x7d'

def replacementTexts (replacements : Store Plain Plain) : List (Text × Text) :=
  replacements.entries.map fun entry => (entry.1.chars, entry.2.chars)

private theorem placeholder_eq_marked (key : Text) :
    placeholder key = marked '\x7b' '\x7d' key := rfl

theorem createTemplate_eq_fill (path : Text) (template : ManifestTemplate)
    (replacements : Store Plain Plain) :
    createTemplate path (some template.chars) (replacementTexts replacements) =
      .ok (template.fill replacements.get?).chars := by
  rw [createTemplate, replacementTexts, List.foldl_map]
  simp only [placeholder_eq_marked]
  rw [Template.foldl_replaceText (by decide)]
  rfl

/-- The replacements one after the other are one substitution: their order does not matter,
unknown placeholders stay, and there is nothing left to render. -/
theorem create_template_substitutes (path : Text) (template : ManifestTemplate)
    (replacements : Store Plain Plain) :
    createTemplate path (some template.chars) (replacementTexts replacements) =
      .ok (template.fill replacements.get?).chars ∧
    (∀ reordered : Store Plain Plain, reordered.entries.Perm replacements.entries →
      createTemplate path (some template.chars) (replacementTexts reordered) =
        createTemplate path (some template.chars) (replacementTexts replacements)) ∧
    (∀ (index : Nat) (key : Plain), template[index]? = some (.placeholder key) →
      key ∉ replacements.keys →
        (template.fill replacements.get?)[index]? = some (.placeholder key)) ∧
    createTemplate path (some (template.fill replacements.get?).chars)
        (replacementTexts replacements) = .ok (template.fill replacements.get?).chars := by
  refine ⟨createTemplate_eq_fill path template replacements, ?_, ?_, ?_⟩
  · intro reordered same
    rw [createTemplate_eq_fill, createTemplate_eq_fill,
      Template.fill_congr (Store.get?_congr_of_perm same)]
  · intro index key present unknown
    exact Template.getElem?_fill_of_unknown present (replacements.get?_eq_none_iff.mpr unknown)
  · rw [createTemplate_eq_fill, Template.fill_fill]

/-! Two keys of which one begins with the other, and a placeholder without a value. -/

def plain (text : Text) (noMarks : '\x7b' ∉ text ∧ '\x7d' ∉ text) : Plain :=
  ⟨text, noMarks.1, noMarks.2⟩

def addressTemplate : ManifestTemplate :=
  [.placeholder (plain (lit "NODE") (by decide)), .text (plain (lit ": ") (by decide)),
    .placeholder (plain (lit "NODE_IP") (by decide)), .text (plain (lit ", ") (by decide)),
    .placeholder (plain (lit "ZONE") (by decide))]

def nodeAndIp : Store Plain Plain where
  entries :=
    [(plain (lit "NODE") (by decide), plain (lit "kwok-1") (by decide)),
      (plain (lit "NODE_IP") (by decide), plain (lit "10.0.0.1") (by decide))]
  keysNodup := by decide

def ipAndNode : Store Plain Plain where
  entries := nodeAndIp.entries.reverse
  keysNodup := by decide

theorem create_template_fills_address :
    createTemplate (lit "node.yaml")
        (some (lit "\x7b\x7bNODE\x7d\x7d: \x7b\x7bNODE_IP\x7d\x7d, \x7b\x7bZONE\x7d\x7d"))
        [(lit "NODE", lit "kwok-1"), (lit "NODE_IP", lit "10.0.0.1")] =
      .ok (lit "kwok-1: 10.0.0.1, \x7b\x7bZONE\x7d\x7d") ∧
    createTemplate (lit "node.yaml") (some addressTemplate.chars) (replacementTexts ipAndNode) =
      createTemplate (lit "node.yaml") (some addressTemplate.chars)
        (replacementTexts nodeAndIp) := by
  obtain ⟨filled, reordered, -⟩ :=
    create_template_substitutes (lit "node.yaml") addressTemplate nodeAndIp
  exact ⟨filled, reordered ipAndNode (List.reverse_perm _)⟩

end Telescope.Kwok
