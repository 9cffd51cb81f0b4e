import Mathlib.Data.List.Sort
import Mathlib.Order.WithBot
import Telescope.Data.Exception
import Telescope.Text.Float

namespace Telescope.Cloud

open Telescope

/-! Buying the cheapest capacity block on offer (`CapacityReservationManager` and its `main`).
What EC2 answers is an input; a purchase can take effect although the call raises. -/

structure Offering where
  capacityBlockOfferingId : Option Text
  upfrontFee : Option Text

structure Args where
  instanceType : Text
  instanceCount : Int
  startDate : Except Error Text
  durationHours : Int
  dryRun : Bool

structure OfferingsRequest where
  instanceType : Text
  instanceCount : Int
  startDateRange : Text
  capacityDurationHours : Option Int

/-- How a purchase ends: refused, taken but its answer lost, or confirmed with the identifier
of the reservation, if the answer holds one. -/
inductive Purchase where
  | refused (error : Error)
  | lost (error : Error)
  | confirmed (reservationId : Option Text)

structure Ec2 where
  connect : Except Error Unit
  describeOfferings : OfferingsRequest → Except Error (List Offering)
  purchase : Text → Purchase
  describeReservations : Option Text → Except Error Nat

def offeringsRequest (args : Args) (startDate : Text) : OfferingsRequest where
  instanceType := args.instanceType
  instanceCount := args.instanceCount
  startDateRange := startDate
  capacityDurationHours :=
    if args.durationHours = 0 then none
    else some (if args.durationHours < 24 then 24 else args.durationHours)

def describeCapacityBlockOfferings (args : Args) (ec2 : Ec2) (startDate : Text) :
    Except Error (List Offering) :=
  if args.instanceType = [] then .error (.valueError (lit "instance_type is required"))
  else if args.instanceCount ≤ 0 then
    .error (.valueError (lit "instance_count must be greater than 0"))
  else ec2.describeOfferings (offeringsRequest args startDate)

/-! ## The order by price -/

/-- `float(x.get("UpfrontFee"))` -/
def Offering.price (offering : Offering) : Except Error FloatValue :=
  match offering.upfrontFee with
  | none => .error ⟨.external,
      lit "float() argument must be a string or a real number, not 'NoneType'"⟩
  | some fee =>
      match parseFloat? fee with
      | none => .error (.valueError (lit "could not convert string to float: '" ++ fee ++ lit "'"))
      | some value => .ok value

/-- Where a price stands among the floats: `double` rounds to the nearest one, which may be
infinite.  `nan` stands nowhere. -/
def rank (double : ℚ → WithBot (WithTop ℚ)) : FloatValue → Option (WithBot (WithTop ℚ))
  | .nan => none
  | .infinity negative => some (if negative then ⊥ else ⊤)
  | .finite value => some (double value)

/-- `<` of two floats: no comparison with `nan` holds. -/
def less (double : ℚ → WithBot (WithTop ℚ)) (first second : FloatValue) : Bool :=
  match rank double first, rank double second with
  | some lower, some higher => decide (lower < higher)
  | _, _ => false

abbrev Priced := FloatValue × Offering

def alike (double : ℚ → WithBot (WithTop ℚ)) (first second : Priced) : Bool :=
  !less double first.1 second.1 && !less double second.1 first.1

/-- `list.sort` with the prices as keys.  It sorts stably by `<`; when there is a `nan` among
the keys, the list is left in some order. -/
structure PriceSort where
  double : ℚ → WithBot (WithTop ℚ)
  sort : List Priced → List Priced
  perm : ∀ priced, (sort priced).Perm priced
  sorted : ∀ priced, (∀ pair ∈ priced, pair.1 ≠ .nan) →
    (sort priced).Pairwise fun first second => less double second.1 first.1 = false
  stable : ∀ priced, (∀ pair ∈ priced, pair.1 ≠ .nan) → ∀ pair ∈ priced,
    (sort priced).filter (alike double pair) = priced.filter (alike double pair)

def prices : List Offering → Except Error (List Priced)
  | [] => .ok []
  | offering :: rest => do
      let price ← offering.price
      let others ← prices rest
      return (price, offering) :: others

/-- The first of the sorted offerings. -/
def bestOffering (byPrice : PriceSort) (offerings : List Offering) :
    Except Error (Option Offering) := do
  let priced ← prices offerings
  return (byPrice.sort priced).head?.map Prod.snd

/-! ## One run -/

def purchaseCapacityBlock (ec2 : Ec2) (offeringId : Text) (ledger : List Text) :
    Except Error (Option Text) × List Text :=
  if offeringId = [] then
    (.error (.valueError (lit "capacity_block_offering_id is required")), ledger)
  else
    match ec2.purchase offeringId with
    | .refused error => (.error error, ledger)
    | .lost error => (.error error, ledger ++ [offeringId])
    | .confirmed reservationId => (.ok reservationId, ledger ++ [offeringId])

def getCapacityReservationSummary (ec2 : Ec2) (reservationId : Option Text) :
    Except Error Unit := do
  let reservations ← ec2.describeReservations reservationId
  if reservations = 0 then
    .error (.valueError (lit "Capacity reservation " ++ reservationId.getD (lit "None") ++
      lit " not found"))
  else .ok ()

/-- The best offering of the search, if there is an offering. -/
def search (byPrice : PriceSort) (args : Args) (ec2 : Ec2) :
    Except Error (Option Offering) := do
  let startDate ← args.startDate
  ec2.connect
  let offerings ← describeCapacityBlockOfferings args ec2 startDate
  bestOffering byPrice offerings

/-- `main`: the exit status, and what has been bought. -/
def main (byPrice : PriceSort) (args : Args) (ec2 : Ec2) (ledger : List Text) :
    Nat × List Text :=
  match search byPrice args ec2 with
  | .error _ => (1, ledger)
  | .ok none => (1, ledger)
  | .ok (some offering) =>
      if args.dryRun then (0, ledger)
      else
        match offering.capacityBlockOfferingId with
        | none => (1, ledger)
        | some offeringId =>
            let purchased := purchaseCapacityBlock ec2 offeringId ledger
            match purchased.1 with
            | .error _ => (1, purchased.2)
            | .ok reservationId =>
                match getCapacityReservationSummary ec2 reservationId with
                | .error _ => (1, purchased.2)
                | .ok () => (0, purchased.2)

def mainRuns (byPrice : PriceSort) :
    List (Args × Ec2) → List Text → List Nat × List Text
  | [], ledger => ([], ledger)
  | (args, ec2) :: rest, ledger =>
      let ended := main byPrice args ec2 ledger
      let later := mainRuns byPrice rest ended.2
      (ended.1 :: later.1, later.2)

/-! ## What a run buys -/

/-- The first among the offerings of the lowest price. -/
def FirstCheapest (double : ℚ → WithBot (WithTop ℚ)) (offerings : List Offering)
    (best : Offering) : Prop :=
  ∃ before after price, offerings = before ++ best :: after ∧ best.price = .ok price ∧
    (∀ other ∈ before,
      ∃ higher, other.price = .ok higher ∧ less double price higher = true) ∧
    ∀ other ∈ after, ∃ least, other.price = .ok least ∧ less double least price = false

/-- A stable sort begins with the first of the least. -/
theorem PriceSort.exists_of_head {byPrice : PriceSort} {priced : List Priced} {best : Priced}
    (numbers : ∀ pair ∈ priced, pair.1 ≠ .nan)
    (head : (byPrice.sort priced).head? = some best) :
    ∃ before after, priced = before ++ best :: after ∧
      (∀ other ∈ before, less byPrice.double best.1 other.1 = true) ∧
      ∀ other ∈ after, less byPrice.double other.1 best.1 = false := by
  obtain ⟨rest, sorted⟩ := List.head?_eq_some_iff.mp head
  have perm := byPrice.perm priced
  rw [sorted] at perm
  have irreflexive (price : FloatValue) : less byPrice.double price price = false := by
    unfold less
    split <;> simp_all
  have none : ∀ other ∈ priced, less byPrice.double other.1 best.1 = false := by
    intro other member
    rcases List.mem_cons.mp (perm.mem_iff.mpr member) with rfl | later
    · exact irreflexive other.1
    · have ordered := byPrice.sorted priced numbers
      rw [sorted] at ordered
      exact List.rel_of_pairwise_cons ordered later
  have likes : alike byPrice.double best best = true := by simp [alike, irreflexive]
  have same := byPrice.stable priced numbers best (perm.mem_iff.mp List.mem_cons_self)
  rw [sorted, List.filter_cons_of_pos likes] at same
  obtain ⟨before, after, split, unlike, -, -⟩ := List.filter_eq_cons_iff.mp same.symm
  rw [split] at none ⊢
  refine ⟨before, after, rfl, fun other member => ?_, fun other member => ?_⟩
  · have notLess := none other (List.mem_append_left _ member)
    simpa [alike, notLess] using unlike other member
  · exact none other (List.mem_append_right _ (List.mem_cons_of_mem _ member))

private theorem prices_ok {offerings : List Offering} {priced : List Priced}
    (read : prices offerings = .ok priced) :
    priced.map Prod.snd = offerings ∧ ∀ pair ∈ priced, pair.2.price = .ok pair.1 := by
  induction offerings generalizing priced with
  | nil =>
      cases read
      exact ⟨rfl, by simp⟩
  | cons offering rest induction =>
      obtain ⟨price, readPrice, later⟩ := exists_of_bind_eq_ok read
      obtain ⟨others, readOthers, same⟩ := exists_of_bind_eq_ok later
      cases same
      obtain ⟨offers, priceOf⟩ := induction readOthers
      exact ⟨by rw [List.map_cons, offers], List.forall_mem_cons.mpr ⟨readPrice, priceOf⟩⟩

private theorem bestOffering_found {byPrice : PriceSort} {offerings : List Offering}
    {best : Offering}
    (found : bestOffering byPrice offerings = .ok (some best)) :
    best ∈ offerings ∧ ((∀ offering ∈ offerings, offering.price ≠ .ok .nan) →
      FirstCheapest byPrice.double offerings best) := by
  obtain ⟨priced, read, same⟩ := exists_of_bind_eq_ok found
  obtain ⟨offers, priceOf⟩ := prices_ok read
  obtain ⟨⟨price, offering⟩, head, rfl⟩ := Option.map_eq_some_iff.mp (Except.ok.inj same)
  constructor
  · have member := (byPrice.perm priced).mem_iff.mp (List.mem_of_head? head)
    rw [← offers]
    exact List.mem_map_of_mem member
  · intro numbers
    have priceNumbers : ∀ pair ∈ priced, pair.1 ≠ .nan := by
      intro pair member same
      refine numbers pair.2 ?_ ((priceOf pair member).trans (by rw [same]))
      rw [← offers]
      exact List.mem_map_of_mem member
    obtain ⟨before, after, split, lower, higher⟩ :=
      PriceSort.exists_of_head priceNumbers head
    rw [split, List.forall_mem_append, List.forall_mem_cons] at priceOf
    obtain ⟨earlier, here, later⟩ := priceOf
    refine ⟨before.map Prod.snd, after.map Prod.snd, price, ?_, here, ?_, ?_⟩
    · rw [← offers, split, List.map_append, List.map_cons]
    · intro other member
      obtain ⟨pair, inBefore, rfl⟩ := List.mem_map.mp member
      exact ⟨pair.1, earlier pair inBefore, lower pair inBefore⟩
    · intro other member
      obtain ⟨pair, inAfter, rfl⟩ := List.mem_map.mp member
      exact ⟨pair.1, later pair inAfter, higher pair inAfter⟩

/-- Why a run bought an offering: it was not a dry run, its request was valid, and the
offering was one that it was given, the first of the cheapest ones if every price is a
number. -/
structure Bought (byPrice : PriceSort) (args : Args) (ec2 : Ec2) (offeringId : Text) :
    Prop where
  notDryRun : args.dryRun = false
  valid : args.instanceType ≠ [] ∧ 0 < args.instanceCount
  cheapest : ∃ startDate offerings best, args.startDate = .ok startDate ∧
    ec2.describeOfferings (offeringsRequest args startDate) = .ok offerings ∧
    best ∈ offerings ∧ best.capacityBlockOfferingId = some offeringId ∧
    ((∀ offering ∈ offerings, offering.price ≠ .ok .nan) →
      FirstCheapest byPrice.double offerings best)

/-- What the exit status of a run says about what it bought. -/
inductive RunEnds (byPrice : PriceSort) (args : Args) (ec2 : Ec2) :
    Nat × List Text → Prop
  | failed (refused : ∀ best, search byPrice args ec2 = .ok (some best) → args.dryRun = false ∧
        ∀ offeringId, best.capacityBlockOfferingId = some offeringId → offeringId ≠ [] →
          ∃ error, ec2.purchase offeringId = .refused error) :
      RunEnds byPrice args ec2 (1, [])
  | searched (dryRun : args.dryRun = true) : RunEnds byPrice args ec2 (0, [])
  | reported {offeringId : Text} {reservationId : Option Text}
      (bought : Bought byPrice args ec2 offeringId)
      (confirmed : ec2.purchase offeringId = .confirmed reservationId)
      (found : getCapacityReservationSummary ec2 reservationId = .ok ()) :
      RunEnds byPrice args ec2 (0, [offeringId])
  | unreported {offeringId : Text} (bought : Bought byPrice args ec2 offeringId)
      (reason : (∃ error, ec2.purchase offeringId = .lost error) ∨
        ∃ reservationId error, ec2.purchase offeringId = .confirmed reservationId ∧
          getCapacityReservationSummary ec2 reservationId = .error error) :
      RunEnds byPrice args ec2 (1, [offeringId])

private theorem search_found {byPrice : PriceSort} {args : Args} {ec2 : Ec2}
    {best : Offering} {offeringId : Text} (found : search byPrice args ec2 = .ok (some best))
    (identified : best.capacityBlockOfferingId = some offeringId)
    (notDryRun : args.dryRun = false) :
    Bought byPrice args ec2 offeringId := by
  obtain ⟨startDate, started, connecting⟩ := exists_of_bind_eq_ok found
  obtain ⟨-, -, describing⟩ := exists_of_bind_eq_ok connecting
  obtain ⟨offerings, described, sorting⟩ := exists_of_bind_eq_ok describing
  unfold describeCapacityBlockOfferings at described
  split at described
  · cases described
  · rename_i typed
    split at described
    · cases described
    · rename_i counted
      obtain ⟨offered, cheapest⟩ := bestOffering_found sorting
      exact ⟨notDryRun, ⟨typed, not_le.mp counted⟩, startDate, offerings, best, started, described,
        offered, identified, cheapest⟩

private theorem main_ends (byPrice : PriceSort) (args : Args) (ec2 : Ec2)
    (ledger : List Text) :
    ∃ ended, RunEnds byPrice args ec2 ended ∧
      main byPrice args ec2 ledger = (ended.1, ledger ++ ended.2) := by
  have nothing (status : Nat) : (status, ledger) = (status, ledger ++ ([] : List Text)) := by
    rw [List.append_nil]
  unfold main
  cases found : search byPrice args ec2 with
  | error error => exact ⟨(1, []), .failed (by simp [found]), nothing 1⟩
  | ok best? =>
      cases best? with
      | none => exact ⟨(1, []), .failed (by simp [found]), nothing 1⟩
      | some best =>
          cases dryRun : args.dryRun with
          | true => exact ⟨(0, []), .searched dryRun, nothing 0⟩
          | false =>
              cases identified : best.capacityBlockOfferingId with
              | none =>
                  have failed : RunEnds byPrice args ec2 (1, []) :=
                    .failed (by simp [found, dryRun, identified])
                  exact ⟨(1, []), failed, by simp [identified]⟩
              | some offeringId =>
                  have bought := search_found found identified dryRun
                  simp only [identified, purchaseCapacityBlock]
                  by_cases empty : offeringId = []
                  · have failed : RunEnds byPrice args ec2 (1, []) :=
                      .failed (by simp [found, dryRun, identified, empty])
                    exact ⟨(1, []), failed, by simp [empty]⟩
                  · cases answered : ec2.purchase offeringId with
                    | refused error =>
                        have failed : RunEnds byPrice args ec2 (1, []) :=
                          .failed (by simp [found, dryRun, identified, answered])
                        exact ⟨(1, []), failed, by simp [empty]⟩
                    | lost error =>
                        exact ⟨(1, [offeringId]), .unreported bought (.inl ⟨error, answered⟩),
                          by simp [empty]⟩
                    | confirmed reservationId =>
                        cases summary : getCapacityReservationSummary ec2 reservationId with
                        | error error =>
                            exact ⟨(1, [offeringId]),
                              .unreported bought (.inr ⟨reservationId, error, answered, summary⟩),
                              by simp [empty, summary]⟩
                        | ok value =>
                            exact ⟨(0, [offeringId]), .reported bought answered summary,
                              by simp [empty, summary]⟩

/-- However often the program is run, each run buys at most one block, and none in a dry run;
the block is one that its request was offered, and the first of the cheapest ones if every
price is a number.  A run that reports success has bought one unless it is a dry run, and one
that reports a failure has bought one only if the answer to its purchase was lost or the
reservation could not be described. -/
theorem runs_buy_cheapest_once (byPrice : PriceSort) (runs : List (Args × Ec2))
    (ledger : List Text) :
    ∃ ends : List (Nat × List Text),
      List.Forall₂ (fun run ended => RunEnds byPrice run.1 run.2 ended) runs ends ∧
        mainRuns byPrice runs ledger =
          (ends.map Prod.fst, ledger ++ (ends.map Prod.snd).flatten) := by
  induction runs generalizing ledger with
  | nil => exact ⟨[], .nil, by simp [mainRuns]⟩
  | cons run rest induction =>
      obtain ⟨args, ec2⟩ := run
      obtain ⟨ended, ends, ran⟩ := main_ends byPrice args ec2 ledger
      obtain ⟨later, laterEnds, laterRan⟩ := induction (ledger ++ ended.2)
      refine ⟨ended :: later, .cons ends laterEnds, ?_⟩
      rw [mainRuns, ran, laterRan]
      simp

/-! Two runs after a dry run, with exact prices: the answer to the first purchase is lost. -/

def exactly (value : ℚ) : WithBot (WithTop ℚ) := ((value : WithTop ℚ) : WithBot (WithTop ℚ))

def height (price : FloatValue) : WithBot (WithTop ℚ) := (rank exactly price).getD ⊤

private theorem exists_rank {price : FloatValue} (number : price ≠ .nan) :
    rank exactly price = some (height price) := by
  cases price with
  | nan => exact absurd rfl number
  | infinity negative => rfl
  | finite value => rfl

private theorem less_eq_false_iff {first second : FloatValue} (firstNumber : first ≠ .nan)
    (secondNumber : second ≠ .nan) :
    less exactly second first = false ↔ height first ≤ height second := by
  rw [less, exists_rank firstNumber, exists_rank secondNumber]
  simp

def notHigher (first second : Priced) : Prop := height first.1 ≤ height second.1

instance : DecidableRel notHigher := fun first second =>
  inferInstanceAs (Decidable (height first.1 ≤ height second.1))

instance : Std.Total notHigher := ⟨fun first second => le_total (height first.1) (height second.1)⟩

instance : IsTrans Priced notHigher := ⟨fun _ _ _ lower higher => le_trans lower higher⟩

def insertionByPrice : PriceSort where
  double := exactly
  sort := List.insertionSort notHigher
  perm := List.perm_insertionSort notHigher
  sorted priced numbers := by
    have number : ∀ pair ∈ priced.insertionSort notHigher, pair.1 ≠ .nan :=
      fun pair member => numbers pair ((List.perm_insertionSort notHigher priced).mem_iff.mp member)
    refine (List.pairwise_insertionSort notHigher priced).imp_of_mem ?_
    intro first second firstMember secondMember ordered
    exact (less_eq_false_iff (number first firstMember) (number second secondMember)).mpr ordered
  stable priced numbers pair member := by
    have perm := List.perm_insertionSort notHigher priced
    let same := priced.filter (alike exactly pair)
    have level : same.Pairwise notHigher := by
      refine List.pairwise_of_forall_mem_list fun first firstMember second secondMember => ?_
      obtain ⟨inPriced, firstAlike⟩ := List.mem_filter.mp firstMember
      obtain ⟨alsoInPriced, secondAlike⟩ := List.mem_filter.mp secondMember
      simp only [alike, Bool.and_eq_true, Bool.not_eq_true'] at firstAlike secondAlike
      have lower := (less_eq_false_iff (numbers _ inPriced) (numbers _ member)).mp firstAlike.1
      have higher :=
        (less_eq_false_iff (numbers _ member) (numbers _ alsoInPriced)).mp secondAlike.2
      exact le_trans lower higher
    have kept : (same.filter (alike exactly pair)).Sublist
        ((priced.insertionSort notHigher).filter (alike exactly pair)) :=
      (List.sublist_insertionSort level List.filter_sublist).filter _
    simp only [same, List.filter_filter, Bool.and_self] at kept
    exact (kept.eq_of_length (perm.filter _).length_eq.symm).symm

def largeMachines (dryRun : Bool) : Args where
  instanceType := lit "p5.48xlarge"
  instanceCount := 2
  startDate := .ok (lit "2025-01-01")
  durationHours := 12
  dryRun := dryRun

def onOffer (purchase : Purchase) : Ec2 where
  connect := .ok ()
  describeOfferings _ := .ok
    [⟨some (lit "cb-1"), some (lit "120.50")⟩, ⟨some (lit "cb-2"), some (lit "98.7")⟩,
      ⟨some (lit "cb-3"), some (lit "98.70")⟩]
  purchase _ := purchase
  describeReservations _ := .ok 1

def lastRun : Args × Ec2 := (largeMachines false, onOffer (.confirmed (some (lit "cr-1"))))

def threeRuns : List (Args × Ec2) :=
  [(largeMachines true, onOffer (.refused ⟨.external, lit "DryRunOperation"⟩)),
    (largeMachines false, onOffer (.lost ⟨.external, lit "Read timed out"⟩)), lastRun]

theorem cheaper_block_is_bought :
    mainRuns insertionByPrice threeRuns [] = ([0, 1, 0], [lit "cb-2", lit "cb-2"]) ∧
      Bought insertionByPrice lastRun.1 lastRun.2 (lit "cb-2") := by
  refine ⟨by decide +kernel, ?_⟩
  have ran : mainRuns insertionByPrice [lastRun] [] = ([0], [lit "cb-2"]) := by decide +kernel
  obtain ⟨ends, ended, same⟩ := runs_buy_cheapest_once insertionByPrice [lastRun] []
  rw [ran] at same
  obtain ⟨statuses, blocks⟩ := Prod.mk.inj same
  cases ended with
  | cons last none =>
      cases none
      cases last with
      | failed refused => simp at statuses
      | searched dryRun => cases dryRun
      | unreported bought reason => simp at statuses
      | reported bought confirmed found =>
          obtain rfl : lit "cb-2" = _ := by simpa using blocks
          exact bought

end Telescope.Cloud
