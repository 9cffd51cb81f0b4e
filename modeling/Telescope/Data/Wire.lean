import Mathlib.Data.Nat.Count
import Mathlib.Logic.Function.Basic

namespace Telescope

/-! A connection that delivers frames on several channels into buffers, until it
closes.  A call on it finds the next frame or not, as a schedule says. -/

variable {κ α : Type} [DecidableEq κ]

inductive Frame (κ α : Type) where
  | data (channel : κ) (content : List α)
  | close

/-- What was sent on a channel before the connection closed. -/
def sent (channel : κ) : List (Frame κ α) → List α
  | [] => []
  | .close :: _ => []
  | .data other content :: rest =>
      if other = channel then content ++ sent channel rest else sent channel rest

theorem sent_data_self (channel : κ) (content : List α) (rest : List (Frame κ α)) :
    sent channel (.data channel content :: rest) = content ++ sent channel rest :=
  if_pos rfl

theorem sent_data_of_ne {channel other : κ} (different : other ≠ channel) (content : List α)
    (rest : List (Frame κ α)) :
    sent channel (.data other content :: rest) = sent channel rest :=
  if_neg different

structure Wire (κ α : Type) where
  pending : List (Frame κ α)
  connected : Bool
  buffer : κ → List α
  calls : Nat

namespace Wire

def receive (wire : Wire κ α) : Wire κ α :=
  match wire.pending with
  | [] => wire
  | .close :: rest => { wire with pending := rest, connected := false }
  | .data channel content :: rest =>
      { wire with
        pending := rest
        buffer := Function.update wire.buffer channel (wire.buffer channel ++ content) }

/-- A call receives a frame if the connection is open and the schedule has one there. -/
def call (arrives : Nat → Bool) (wire : Wire κ α) : Wire κ α :=
  if wire.connected && arrives wire.calls then
    { wire.receive with calls := wire.calls + 1 }
  else { wire with calls := wire.calls + 1 }

def drain (channel : κ) (wire : Wire κ α) : Wire κ α :=
  { wire with buffer := Function.update wire.buffer channel [] }

/-- What a channel holds and will still receive. -/
def expected (channel : κ) (wire : Wire κ α) : List α :=
  wire.buffer channel ++ if wire.connected then sent channel wire.pending else []

variable {arrives : Nat → Bool} {wire : Wire κ α}

/-- What a call can do: find nothing, a frame of data, or the close. -/
theorem call_cases (arrives : Nat → Bool) (wire : Wire κ α) :
    wire.call arrives = { wire with calls := wire.calls + 1 } ∧
      (wire.connected = false ∨ arrives wire.calls = false ∨ wire.pending = []) ∨
    (∃ channel content rest, wire.connected = true ∧ arrives wire.calls = true ∧
      wire.pending = .data channel content :: rest ∧
      wire.call arrives =
        ⟨rest, true, Function.update wire.buffer channel (wire.buffer channel ++ content),
          wire.calls + 1⟩) ∨
    (∃ rest, wire.connected = true ∧ arrives wire.calls = true ∧
      wire.pending = .close :: rest ∧
      wire.call arrives = ⟨rest, false, wire.buffer, wire.calls + 1⟩) := by
  obtain ⟨pending, connected, buffer, calls⟩ := wire
  cases connected with
  | false => exact .inl ⟨rfl, .inl rfl⟩
  | true =>
      cases found : arrives calls with
      | false =>
          refine .inl ⟨?_, .inr (.inl rfl)⟩
          simp [call, found]
      | true =>
          match pending with
          | [] => exact .inl ⟨by simp [call, found, receive], .inr (.inr rfl)⟩
          | .data channel content :: rest =>
              exact .inr (.inl ⟨channel, content, rest, rfl, rfl, rfl,
                by simp [call, found, receive]⟩)
          | .close :: rest =>
              exact .inr (.inr ⟨rest, rfl, rfl, rfl, by simp [call, found, receive]⟩)

theorem calls_call (arrives : Nat → Bool) (wire : Wire κ α) :
    (wire.call arrives).calls = wire.calls + 1 := by
  unfold call
  split <;> rfl

/-- A call neither loses nor adds anything on any channel. -/
theorem expected_call (arrives : Nat → Bool) (channel : κ) (wire : Wire κ α) :
    (wire.call arrives).expected channel = wire.expected channel := by
  obtain ⟨same, _⟩ | ⟨other, content, rest, isOpen, _, next, same⟩ |
    ⟨rest, isOpen, _, next, same⟩ := call_cases arrives wire
  · rw [same]
    rfl
  · rw [same, expected, expected, isOpen, next, if_pos rfl, if_pos rfl]
    dsimp only
    cases Decidable.em (other = channel) with
    | inl equal =>
        subst equal
        rw [Function.update_self, sent_data_self, List.append_assoc]
    | inr different =>
        rw [Function.update_of_ne (Ne.symm different), sent_data_of_ne different]
  · rw [same, expected, expected, isOpen, next]
    rfl

theorem buffer_call_of_closed {channel : κ} (empty : wire.buffer channel = [])
    (closed : (wire.call arrives).connected = false) :
    (wire.call arrives).buffer channel = [] := by
  obtain ⟨same, _⟩ | ⟨_, _, _, _, _, _, same⟩ | ⟨_, _, _, _, same⟩ := call_cases arrives wire
  · rw [same]
    exact empty
  · rw [same] at closed
    cases closed
  · rw [same]
    exact empty

theorem buffer_drain_self (channel : κ) (wire : Wire κ α) :
    (wire.drain channel).buffer channel = [] := Function.update_self ..

theorem buffer_drain_of_ne {channel other : κ} (different : channel ≠ other)
    (wire : Wire κ α) : (wire.drain other).buffer channel = wire.buffer channel :=
  Function.update_of_ne different ..

theorem expected_drain_self (channel : κ) (wire : Wire κ α) :
    wire.buffer channel ++ (wire.drain channel).expected channel = wire.expected channel := by
  rw [expected, buffer_drain_self]
  rfl

theorem expected_drain_of_ne {channel other : κ} (different : channel ≠ other)
    (wire : Wire κ α) : (wire.drain other).expected channel = wire.expected channel := by
  rw [expected, buffer_drain_of_ne different]
  rfl

theorem expected_of_closed {channel : κ} (closed : wire.connected = false)
    (empty : wire.buffer channel = []) : wire.expected channel = [] := by
  rw [expected, closed, empty]
  rfl

/-- While the connection is open, every frame that arrived in `total` was found. -/
def Delivering (arrives : Nat → Bool) (total : Nat) (wire : Wire κ α) : Prop :=
  wire.connected = true → Frame.close ∈ wire.pending ∧
    wire.pending.length + Nat.count (fun call => arrives call = true) wire.calls = total

theorem Delivering.call {total : Nat} (delivering : wire.Delivering arrives total) :
    (wire.call arrives).Delivering arrives total := by
  intro isOpen
  have counted := Nat.count_succ (fun call => arrives call = true) wire.calls
  obtain ⟨same, idle⟩ | ⟨_, _, rest, wasOpen, found, next, same⟩ | ⟨_, _, _, _, same⟩ :=
    call_cases arrives wire
  · rw [same] at isOpen ⊢
    obtain ⟨closes, total⟩ := delivering isOpen
    refine ⟨closes, ?_⟩
    obtain closed | missed | none := idle
    · exact absurd (closed.symm.trans isOpen) Bool.false_ne_true
    · rw [counted, if_neg (ne_true_of_eq_false missed)]
      exact total
    · rw [none] at closes
      exact absurd closes List.not_mem_nil
  · obtain ⟨closes, total⟩ := delivering wasOpen
    rw [same]
    rw [next] at closes total
    refine ⟨(List.mem_cons.mp closes).resolve_left (fun equal => nomatch equal), ?_⟩
    rw [List.length_cons] at total
    rw [counted, if_pos found, ← total, Nat.add_right_comm]
    rfl
  · rw [same] at isOpen
    cases isOpen

theorem Delivering.drain {total : Nat} (delivering : wire.Delivering arrives total)
    (channel : κ) : (wire.drain channel).Delivering arrives total := delivering

omit [DecidableEq κ] in
theorem Delivering.closed {total : Nat} (delivering : wire.Delivering arrives total)
    (arrived : total ≤ Nat.count (fun call => arrives call = true) wire.calls) :
    wire.connected = false := by
  cases isOpen : wire.connected with
  | false => rfl
  | true =>
      obtain ⟨closes, counted⟩ := delivering isOpen
      have pending := List.length_pos_of_mem closes
      omega

end Wire

end Telescope
