import Mathlib.Data.List.Basic

namespace Telescope

universe u

/-! Listings that come in pages, each with its entries and perhaps a link to the next.
A reader follows at most so many pages, and the answers may depend on when they come. -/

structure Page (α κ : Type u) where
  entries : List α
  next : Option κ

section Paging

variable {ε α κ : Type u} (fetch : Nat → κ → Except ε (Page α κ)) (exceeded : ε)

/-- `for _ in range(left)` from fetch `index` on, with the entries collected so far. -/
def collectPages : Nat → Nat → κ → List α → Except ε (List α)
  | 0, _, _, _ => .error exceeded
  | left + 1, index, link, collected =>
      match fetch index link with
      | .error error => .error error
      | .ok page =>
          match page.next with
          | none => .ok (collected ++ page.entries)
          | some next => collectPages left (index + 1) next (collected ++ page.entries)

/-- The pages read from fetch `index` on, each linking to the next, and the link that
comes after them. -/
inductive Reads : Nat → κ → List (List α) → κ → Prop
  | here (index : Nat) (link : κ) : Reads index link [] link
  | page {index : Nat} {link next last : κ} {entries : List α} {pages : List (List α)}
      (read : fetch index link = .ok ⟨entries, some next⟩)
      (later : Reads (index + 1) next pages last) :
      Reads index link (entries :: pages) last

variable {fetch exceeded}

/-- Exactly a complete listing within the bound is returned. -/
theorem collectPages_ok_iff {left index : Nat} {link : κ} {collected result : List α} :
    collectPages fetch exceeded left index link collected = .ok result ↔
      ∃ pages last entries, Reads fetch index link pages last ∧ pages.length < left ∧
        fetch (index + pages.length) last = .ok ⟨entries, none⟩ ∧
        result = collected ++ (pages.flatten ++ entries) := by
  induction left generalizing index link collected with
  | zero => simp [collectPages]
  | succ left induction =>
      rw [collectPages]
      constructor
      · intro returned
        cases fetched : fetch index link with
        | error error =>
            rw [fetched] at returned
            exact nomatch returned
        | ok page =>
            obtain ⟨entries, next⟩ := page
            rw [fetched] at returned
            cases next with
            | none =>
                cases returned
                exact ⟨[], link, entries, .here index link, Nat.succ_pos left, fetched, rfl⟩
            | some next =>
                obtain ⟨pages, last, final, reads, bounded, ended, same⟩ :=
                  induction.mp returned
                refine ⟨entries :: pages, last, final, .page fetched reads,
                  Nat.succ_lt_succ bounded, ?_, ?_⟩
                · rw [← ended, List.length_cons, Nat.add_assoc, Nat.add_comm 1]
                · simp [same]
      · intro complete
        obtain ⟨pages, last, final, reads, bounded, ended, same⟩ := complete
        cases reads with
        | here =>
            rw [List.length_nil, Nat.add_zero] at ended
            simp [ended, same]
        | @page _ _ next _ entries pages read later =>
            simp only [read]
            apply induction.mpr
            refine ⟨pages, last, final, later, Nat.lt_of_succ_lt_succ bounded, ?_, ?_⟩
            · rw [← ended, List.length_cons, Nat.add_assoc, Nat.add_comm 1]
            · simp [same]

/-- A listing fails with the error of a page within the bound, or because the pages
within the bound all link to another one. -/
theorem collectPages_error_iff {left index : Nat} {link : κ} {collected : List α}
    {error : ε} :
    collectPages fetch exceeded left index link collected = .error error ↔
      ∃ pages last, Reads fetch index link pages last ∧
        (pages.length < left ∧ fetch (index + pages.length) last = .error error ∨
          pages.length = left ∧ error = exceeded) := by
  induction left generalizing index link collected with
  | zero =>
      rw [collectPages]
      constructor
      · intro raised
        cases raised
        exact ⟨[], link, .here index link, .inr ⟨rfl, rfl⟩⟩
      · intro failed
        obtain ⟨pages, last, -, short | ⟨-, same⟩⟩ := failed
        · exact absurd short.1 (Nat.not_lt_zero _)
        · rw [same]
  | succ left induction =>
      rw [collectPages]
      constructor
      · intro raised
        cases fetched : fetch index link with
        | error other =>
            rw [fetched] at raised
            cases raised
            exact ⟨[], link, .here index link, .inl ⟨Nat.succ_pos left, fetched⟩⟩
        | ok page =>
            obtain ⟨entries, next⟩ := page
            rw [fetched] at raised
            cases next with
            | none => exact nomatch raised
            | some next =>
                obtain ⟨pages, last, reads, failed⟩ := induction.mp raised
                refine ⟨entries :: pages, last, .page fetched reads, ?_⟩
                rw [List.length_cons, Nat.add_comm pages.length, ← Nat.add_assoc]
                simpa [Nat.add_comm 1] using failed
      · intro failed
        obtain ⟨pages, last, reads, failed⟩ := failed
        cases reads with
        | here =>
            have fetched : fetch index link = .error error := by simpa using failed
            rw [fetched]
        | @page _ _ next _ entries pages read later =>
            simp only [read]
            apply induction.mpr
            refine ⟨pages, last, later, ?_⟩
            rw [List.length_cons, Nat.add_comm pages.length, ← Nat.add_assoc] at failed
            simpa [Nat.add_comm 1] using failed

end Paging

end Telescope
