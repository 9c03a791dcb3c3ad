import Mathlib.Tactic.Linarith
import StateTransition.Evm.Gas
import StateTransition.Proofs.Fork.Mainnet

/-!
What writes to one slot cost under net metering. `changePrice` acts as a potential: a write costs
the price of no change and moves the potential from the value before it to the value after it. So
the sum over any sequence of writes telescopes, and the values in between do not count.
-/

namespace StateTransition.Evm.Gas

def writeParams : List Param :=
  [.sstoreSet, .sstoreReset, .sstoreNoop, .sstoreClearRefund, .coldSload]

namespace WritePrice

/-- What is charged for a write, less what is given back for it. -/
def net (price : WritePrice) : Int := price.gas - price.refund

/-- The gas and the refund are numbers of 64 bits, the refund with a sign. -/
def Fits (price : WritePrice) : Prop :=
  price.gas < UInt64.size ∧ -2 ^ 63 ≤ price.refund ∧ price.refund < 2 ^ 63

end WritePrice

/-- The prices of writes to one slot, one after the other; only the first may find the slot cold. -/
def writePrices (rules : Rules) (initial : Word) :
    (current : Word) → (cold : Bool) → List Word → List WritePrice
  | _, _, [] => []
  | current, cold, value :: later =>
    write rules ⟨initial, current, value⟩ cold :: writePrices rules initial value false later

/-- What it costs, beyond the price of each write, that a slot holds another value in the end than
it did at first. -/
def changePrice (rules : Rules) (initial final : Word) : Int :=
  if initial = final then 0
  else if initial = 0#256 then rules.amount .sstoreSet - rules.amount .sstoreNoop
  else if final = 0#256 then
    rules.amount .sstoreReset - rules.amount .sstoreNoop - rules.amount .sstoreClearRefund
  else rules.amount .sstoreReset - rules.amount .sstoreNoop

variable {rules : Rules}

@[simp] theorem changePrice_self (initial : Word) : changePrice rules initial initial = 0 :=
  if_pos rfl

section Moderate

variable (moderate : ∀ param ∈ writeParams, rules.amount param < 2 ^ 62)

include moderate

theorem signed_amounts :
    signed (rules.amount .sstoreSet) = rules.amount .sstoreSet ∧
      signed (rules.amount .sstoreReset) = rules.amount .sstoreReset ∧
      signed (rules.amount .sstoreNoop) = rules.amount .sstoreNoop ∧
      signed (rules.amount .sstoreClearRefund) = rules.amount .sstoreClearRefund := by
  have read (param : Param) (member : param ∈ writeParams) :
      signed (rules.amount param) = rules.amount param := by
    have small := moderate param member
    rw [signed, if_pos]
    rw [UInt64.size]
    omega
  exact ⟨read _ (by decide), read _ (by decide), read _ (by decide), read _ (by decide)⟩

theorem net_netWrite_clean {initial value : Word} (changes : initial ≠ value) :
    (netWrite rules ⟨initial, initial, value⟩).net =
      rules.amount .sstoreNoop + changePrice rules initial value := by
  obtain ⟨_, _, _, clear⟩ := signed_amounts moderate
  simp only [netWrite, if_neg changes, if_true, changePrice, clear, Word.isZero, beq_iff_eq]
  by_cases vacant : initial = 0#256
  · simp [vacant, WritePrice.net]
  · by_cases emptied : value = 0#256
    · simp [vacant, emptied, WritePrice.net]
      omega
    · simp [vacant, emptied, WritePrice.net]

theorem refund_dirty {initial current value : Word} (dirty : initial ≠ current)
    (changes : current ≠ value) :
    clearingRefund rules ⟨initial, current, value⟩ +
        restoringRefund rules ⟨initial, current, value⟩ =
      changePrice rules initial current - changePrice rules initial value := by
  obtain ⟨set, reset, noop, clear⟩ := signed_amounts moderate
  simp only [clearingRefund, restoringRefund, changePrice, if_neg dirty, noop, clear, Word.isZero,
    beq_iff_eq]
  grind

/-- A write moves the potential from the value it finds to the value it leaves. -/
theorem net_netWrite (initial current value : Word) :
    (netWrite rules ⟨initial, current, value⟩).net + changePrice rules initial current =
      rules.amount .sstoreNoop + changePrice rules initial value := by
  by_cases kept : current = value
  · simp [kept, netWrite, WritePrice.net]
  by_cases clean : initial = current
  · subst clean
    simp [net_netWrite_clean moderate kept]
  · have moved := refund_dirty moderate clean kept
    simp only [netWrite, if_neg kept, if_neg clean, WritePrice.net]
    omega

theorem refund_netWrite_bounds (slot : SlotWrite) :
    -2 ^ 63 ≤ (netWrite rules slot).refund ∧ (netWrite rules slot).refund < 2 ^ 63 := by
  obtain ⟨set, reset, noop, clear⟩ := signed_amounts moderate
  simp only [writeParams, List.forall_mem_cons] at moderate
  have clearing : -2 ^ 62 < clearingRefund rules slot ∧ clearingRefund rules slot < 2 ^ 62 := by
    rw [clearingRefund, clear]
    grind
  have restoring : -2 ^ 62 < restoringRefund rules slot ∧ restoringRefund rules slot < 2 ^ 62 := by
    simp only [restoringRefund, noop]
    grind
  rw [netWrite]
  grind

variable (metered : rules.isActive .netSstoreMetering = true)

include metered

theorem net_write (initial current value : Word) (cold : Bool) :
    (write rules ⟨initial, current, value⟩ cold).net + changePrice rules initial current =
      rules.amount .sstoreNoop + changePrice rules initial value +
        (if cold then rules.amount .coldSload else 0 : Nat) := by
  have moves := net_netWrite moderate initial current value
  simp only [write, metered, if_true, WritePrice.net, Int.natCast_add] at moves ⊢
  omega

theorem fits_write (slot : SlotWrite) (cold : Bool) : (write rules slot cold).Fits := by
  have refund := refund_netWrite_bounds moderate slot
  simp only [writeParams, List.forall_mem_cons] at moderate
  refine ⟨?_, ?_⟩
  · simp only [write, metered, if_true, netWrite, UInt64.size]
    grind
  · simpa [write, metered] using refund

theorem fits_of_mem_writePrices {initial current : Word} {cold : Bool} {values : List Word}
    {price : WritePrice} (member : price ∈ writePrices rules initial current cold values) :
    price.Fits := by
  induction values generalizing current cold with
  | nil => cases member
  | cons value later ih =>
    rcases List.mem_cons.mp member with same | below
    · rw [same]
      exact fits_write moderate metered _ cold
    · exact ih below

theorem sum_net_writePrices (initial current : Word) (values : List Word) :
    ((writePrices rules initial current false values).map WritePrice.net).sum +
        changePrice rules initial current =
      values.length * rules.amount .sstoreNoop +
        changePrice rules initial (values.getLastD current) := by
  induction values generalizing current with
  | nil => simp [writePrices]
  | cons value later ih =>
    have first := net_write moderate metered initial current value false
    have rest := ih value
    rw [writePrices, List.map_cons, List.sum_cons, List.getLastD_cons, List.length_cons]
    push_cast at first rest ⊢
    linarith

/-- Writes to one slot cost the price of no change each, the first access of a cold slot, and what
it costs that the slot holds the last value instead of the initial one. So the values in between do
not count. The prices are computed in 64 bits without overflow. -/
theorem writes_priced_by_last_value (initial : Word) (cold : Bool) {values : List Word}
    (written : values ≠ []) :
    ((writePrices rules initial initial cold values).map WritePrice.net).sum =
        values.length * rules.amount .sstoreNoop +
          changePrice rules initial (values.getLast written) +
          (if cold then rules.amount .coldSload else 0 : Nat) ∧
      ∀ price ∈ writePrices rules initial initial cold values, price.Fits := by
  refine ⟨?_, fun price member => fits_of_mem_writePrices moderate metered member⟩
  cases values with
  | nil => exact absurd rfl written
  | cons value later =>
    have first := net_write moderate metered initial initial value cold
    have rest := sum_net_writePrices moderate metered initial value later
    rw [writePrices, List.map_cons, List.sum_cons, List.getLast_eq_getLastD, List.length_cons]
    rw [changePrice_self] at first
    push_cast at first rest ⊢
    linarith

end Moderate

theorem writes_priced_by_last_value_cleared :
    (∀ param ∈ writeParams, (Mainnet.rules .berlin).amount param < 2 ^ 62) ∧
      (Mainnet.rules .berlin).isActive .netSstoreMetering = true ∧
      ((writePrices (Mainnet.rules .berlin) 7#256 7#256 true [0#256, 9#256, 0#256]).map
        WritePrice.net).sum = -9800 := by
  rw [Mainnet.rules_eq_readOff]
  have moderate : ∀ param ∈ writeParams, (Mainnet.readOff .berlin).amount param < 2 ^ 62 := by
    decide +kernel
  have metered : (Mainnet.readOff .berlin).isActive .netSstoreMetering = true := by decide +kernel
  refine ⟨moderate, metered, ?_⟩
  rw [(writes_priced_by_last_value moderate metered 7#256 true (List.cons_ne_nil 0#256 _)).1]
  decide +kernel

end StateTransition.Evm.Gas
