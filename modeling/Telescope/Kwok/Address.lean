import Telescope.Data.Radix
import Telescope.Kwok.Lifecycle
import Telescope.Text.Lines

namespace Telescope.Kwok

open Telescope Telescope.Kubernetes

/-! The addresses of the virtual nodes: IPv4 addresses as numbers, and the octet
arithmetic of `_generate_node_ip`. -/

/-- The dotted quad of a 32-bit number. -/
def dottedQuad (address : Nat) : Text :=
  joinText (lit ".")
    [natText (address / 2 ^ 24), natText (address / 2 ^ 16 % 256),
     natText (address / 2 ^ 8 % 256), natText (address % 256)]

def addressOf (a b c d : Nat) : Nat := a * 2 ^ 24 + b * 2 ^ 16 + c * 2 ^ 8 + d

theorem addressOf_eq_ofDigits (a b c d : Nat) :
    addressOf a b c d = Nat.ofDigits 256 [d, c, b, a] := by
  simp only [addressOf, Nat.ofDigits_cons, Nat.ofDigits_nil]
  omega

private theorem dottedQuad_addressOf {a b c d : Nat} (bBound : b < 256) (cBound : c < 256)
    (dBound : d < 256) :
    dottedQuad (addressOf a b c d) =
      joinText (lit ".") [natText a, natText b, natText c, natText d] := by
  have first : addressOf a b c d / 2 ^ 24 = a := by unfold addressOf; omega
  have second : addressOf a b c d / 2 ^ 16 % 256 = b := by unfold addressOf; omega
  have third : addressOf a b c d / 2 ^ 8 % 256 = c := by unfold addressOf; omega
  have fourth : addressOf a b c d % 256 = d := by unfold addressOf; omega
  rw [dottedQuad, first, second, third, fourth]

private theorem dot_not_mem_natText (n : Nat) : '.' ∉ natText n := by
  intro member
  have digit := Nat.isDigit_of_mem_toDigits (by decide) (by decide) member
  exact absurd digit (by decide)

private theorem dottedQuad_injective : Function.Injective dottedQuad := by
  intro first second same
  have parts (address : Nat) : (dottedQuad address).splitOn '.' =
      [natText (address / 2 ^ 24), natText (address / 2 ^ 16 % 256),
       natText (address / 2 ^ 8 % 256), natText (address % 256)] := by
    apply List.splitOn_intercalate
    · intro part member
      simp only [List.mem_cons, List.not_mem_nil, or_false] at member
      rcases member with rfl | rfl | rfl | rfl <;> exact dot_not_mem_natText _
    · exact List.cons_ne_nil _ _
  have texts := congrArg (List.splitOn '.') same
  rw [parts, parts] at texts
  simp only [List.cons.injEq, and_true] at texts
  have one := natText_injective texts.1
  have two := natText_injective texts.2.1
  have three := natText_injective texts.2.2.1
  have four := natText_injective texts.2.2.2
  omega

/-- The octets of the code are those of the carry from octet to octet; only the first is
not reduced, and it leaves its range exactly if something is carried out of it. -/
theorem generateNodeIp_eq_addCarry (a b c d : Fin 256) (index : Nat) :
    ∃ octet₁ octet₂ octet₃ octet₄ out,
      Radix.addCarry 256 [d.val, c.val, b.val, a.val] index =
        ([octet₄, octet₃, octet₂, octet₁], out) ∧
      generateNodeIp (a, b, c, d) index =
        if out = 0 then
          .ok (joinText (lit ".")
            [natText octet₁, natText octet₂, natText octet₃, natText octet₄])
        else .error (.valueError (lit "Exceeded valid IPv4 address range.")) := by
  have second := Nat.mod_lt (b.val + (c.val + (d.val + index) / 256) / 256) (y := 256) (by decide)
  have third := Nat.mod_lt (c.val + (d.val + index) / 256) (y := 256) (by decide)
  have fourth := Nat.mod_lt (d.val + index) (y := 256) (by decide)
  refine ⟨_, _, _, _,
    (a.val + (b.val + (c.val + (d.val + index) / 256) / 256) / 256) / 256, rfl, ?_⟩
  simp only [generateNodeIp]
  generalize a.val + (b.val + (c.val + (d.val + index) / 256) / 256) / 256 = first
  by_cases inRange : first < 256
  · rw [if_neg (by omega), if_pos (by omega), Nat.mod_eq_of_lt inRange]
  · rw [if_pos (by omega), if_neg (by omega)]

theorem generateNodeIp_eq (a b c d : Fin 256) (index : Nat) :
    generateNodeIp (a, b, c, d) index =
      if addressOf a b c d + index < 2 ^ 32 then .ok (dottedQuad (addressOf a b c d + index))
      else .error (.valueError (lit "Exceeded valid IPv4 address range.")) := by
  obtain ⟨octet₁, octet₂, octet₃, octet₄, out, carried, generated⟩ :=
    generateNodeIp_eq_addCarry a b c d index
  have value := Radix.ofDigits_addCarry 256 [d.val, c.val, b.val, a.val] index
  have fits : out = 0 ↔ addressOf a b c d + index < 2 ^ 32 := by
    have whole := Radix.addCarry_fits_iff (by decide : 1 < 256) [d.val, c.val, b.val, a.val] index
    have power : 256 ^ [d.val, c.val, b.val, a.val].length = 2 ^ 32 := by norm_num
    rw [carried, ← addressOf_eq_ofDigits, power] at whole
    exact whole
  have bounded (octet : Nat) (member : octet ∈ [octet₄, octet₃, octet₂, octet₁]) :
      octet < 256 := by
    have inSum : octet ∈ (Radix.addCarry 256 [d.val, c.val, b.val, a.val] index).1 := by
      rw [carried]
      exact member
    exact Radix.lt_of_mem_addCarry (by decide) inSum
  rw [carried, ← addressOf_eq_ofDigits, ← addressOf_eq_ofDigits] at value
  rw [generated]
  by_cases inRange : out = 0
  · rw [if_pos inRange, if_pos (fits.mp inRange)]
    rw [inRange, mul_zero, add_zero] at value
    rw [← value, dottedQuad_addressOf (bounded _ (by simp)) (bounded _ (by simp))
      (bounded _ (by simp))]
  · rw [if_neg inRange, if_neg fun below => inRange (fits.mpr below)]

private theorem exists_nodeIp_of_kwokTemplate {node : Node} {index : Nat} {body : Text}
    (rendered : node.kwokTemplate index = .ok body) :
    ∃ address < 2 ^ 32, generateNodeIp (10, 0, 0, 10) index = .ok (dottedQuad address) := by
  obtain ⟨nodeIp, generated, -⟩ := exists_of_bind_eq_ok rendered
  have equation : generateNodeIp (10, 0, 0, 10) index =
      if addressOf 10 0 0 10 + index < 2 ^ 32 then .ok (dottedQuad (addressOf 10 0 0 10 + index))
      else .error (.valueError (lit "Exceeded valid IPv4 address range.")) :=
    generateNodeIp_eq 10 0 0 10 index
  rw [equation] at generated ⊢
  by_cases inRange : addressOf 10 0 0 10 + index < 2 ^ 32
  · exact ⟨_, inRange, if_pos inRange⟩
  · rw [if_neg inRange] at generated
    exact nomatch generated

/-- The address of an index is the number of the base address plus the index, or there is
none; so the addresses of one run are valid and distinct. -/
theorem node_addresses_consecutive (a b c d : Fin 256) :
    (∀ index, generateNodeIp (a, b, c, d) index =
      if addressOf a b c d + index < 2 ^ 32 then .ok (dottedQuad (addressOf a b c d + index))
      else .error (.valueError (lit "Exceeded valid IPv4 address range."))) ∧
    (∀ first second nodeIp, generateNodeIp (a, b, c, d) first = .ok nodeIp →
      generateNodeIp (a, b, c, d) second = .ok nodeIp → first = second) ∧
    (∀ (node : Node) (run : Node.CreateRun) (objects : Objects),
      (node.create run objects).1 = .ok () → ∀ index < node.nodeCount,
        ∃ address < 2 ^ 32, generateNodeIp (10, 0, 0, 10) index = .ok (dottedQuad address)) := by
  refine ⟨generateNodeIp_eq a b c d, ?_, ?_⟩
  · intro first second nodeIp firstGenerated secondGenerated
    rw [generateNodeIp_eq] at firstGenerated secondGenerated
    split at firstGenerated
    · split at secondGenerated
      · have texts := (Except.ok.inj firstGenerated).trans (Except.ok.inj secondGenerated).symm
        have same := dottedQuad_injective texts
        omega
      · exact nomatch secondGenerated
    · exact nomatch firstGenerated
  · intro node run objects returned index below
    obtain ⟨body, rendered, -⟩ := (Node.create_created returned).nodes index below
    exact exists_nodeIp_of_kwokTemplate rendered

end Telescope.Kwok
