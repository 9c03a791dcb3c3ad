import Mathlib.Algebra.Ring.Nat
import Mathlib.Data.List.Induction
import StateTransition.Proofs.World.Lookup
import StateTransition.Scenario.Allocator

/-!
What an allocator holds after any requests. An account is only ever added where there was none, a
request that fails changes nothing but the counters, and keys are kept for funded accounts alone.
-/

namespace StateTransition

namespace Scenario

namespace Allocation

/-- What can be asked of an allocator. A contract without storage is a deployment that lists no
slots. -/
inductive Request where
  | deploy (deployment : Deployment)
  | fund (amount : Word)
  | fundKey (key : PrivateKey) (amount : Word)
  | insert (address : Address) (account : Account)

structure Placed where
  address : Address
  key : Option PrivateKey

namespace Request

def perform : Request → Allocation Placed
  | .deploy deployment => do
    let address ← Allocation.deploy deployment
    return ⟨address, none⟩
  | .fund amount => do
    let funded ← Allocation.fund amount
    return ⟨funded.address, some funded.key⟩
  | .fundKey key amount => do
    let funded ← Allocation.fundKey key amount
    return ⟨funded.address, some funded.key⟩
  | .insert address account => do
    place address account
    return ⟨address, none⟩

def isDeployment : Request → Bool
  | .deploy _ => true
  | _ => false

def Describes : Request → Account → Prop
  | .deploy deployment, account =>
    account.code = deployment.code ∧ account.balance = deployment.balance ∧
      account.nonce = deployment.nonce ∧
      ∀ key, account.slot key = (lastAssigned key deployment.storage).getD 0#256
  | .fund amount, account | .fundKey _ amount, account => account = { balance := amount }
  | .insert _ given, account => account = given

/-- Where the account of a request belongs, with its key if it is funded. The number that is next
need not be a key. -/
def target (before : Allocator) : Request → Except SignatureError Placed
  | .deploy _ => .ok ⟨Address.ofNat before.nextContract.toNat, none⟩
  | .fund _ => (PrivateKey.ofBytes? before.nextKey.toBytes).map fun key => ⟨key.address, some key⟩
  | .fundKey key _ => .ok ⟨key.address, some key⟩
  | .insert address _ => .ok ⟨address, none⟩

def nextContract (request : Request) (before : Allocator) : UInt64 :=
  if request.isDeployment then before.nextContract + contractStep else before.nextContract

/-- One account comes in where there was none, and all others stay. -/
structure Adds (request : Request) (before : Allocator) (placed : Placed) (now : Allocator) :
    Prop where
  fresh : before.world.contains placed.address = false
  world : ∃ account, request.Describes account ∧ ∀ other,
    now.world.get? other =
      if placed.address = other then some account else before.world.get? other
  keys : now.keys = placed.key.elim before.keys (before.keys.insert placed.address)
  counter : now.nextContract = request.nextContract before

/-- The accounts and the keys are as they were, though an address may be used up. -/
structure Keeps (request : Request) (before now : Allocator) : Prop where
  world : now.world = before.world
  keys : now.keys = before.keys
  counter : now.nextContract = request.nextContract before

/-- A request adds its account where that belongs, unless the place is taken or there is no key for
it. -/
inductive Ends (request : Request) (before : Allocator) :
    EStateM.Result SetupError Allocator Placed → Prop where
  | added {placed : Placed} {now : Allocator} (belongs : request.target before = .ok placed)
      (adds : request.Adds before placed now) : Ends request before (.ok placed now)
  | taken {placed : Placed} {now : Allocator} (belongs : request.target before = .ok placed)
      (held : before.world.contains placed.address = true) (keeps : request.Keeps before now) :
      Ends request before (.error (.addressCollision placed.address) now)
  | keyless {cause : SignatureError} {now : Allocator}
      (nowhere : request.target before = .error cause) (keeps : request.Keeps before now) :
      Ends request before (.error (.crypto cause) now)

def leave (request : Request) (allocator : Allocator) : Allocator :=
  match request.perform allocator with
  | .ok _ now => now
  | .error _ now => now

end Request

/-- The allocator after some requests, of which any may have failed. -/
def after (requests : List Request) : Allocator :=
  requests.foldl (fun allocator request => request.leave allocator) {}

def contractAddress (place : Nat) : Address := Address.ofNat (0x1000 + 0x100 * place)

def Funded (requests : List Request) (address : Address) (key : PrivateKey) : Prop :=
  ∃ prior request later, requests = prior ++ request :: later ∧
    (∃ amount, request = .fund amount ∨ request = .fundKey key amount) ∧
    ∃ now, request.perform (after prior) = .ok ⟨address, some key⟩ now

section

variable (before : Allocator)

theorem place_cases (address : Address) (account : Account) :
    (before.world.contains address = false ∧ place address account before =
        .ok () { before with world := before.world.insert address account }) ∨
      (before.world.contains address = true ∧
        place address account before = .error (.addressCollision address) before) := by
  rw [place]
  cases before.world.contains address with
  | false => exact .inl ⟨rfl, rfl⟩
  | true => exact .inr ⟨rfl, rfl⟩

theorem deploy_cases (deployment : Deployment) {address : Address} {taken : Allocator}
    (takes : takeContractAddress before = .ok address taken) :
    (taken.world.contains address = false ∧ deploy deployment before =
        .ok address { taken with world := taken.world.insert address deployment.account }) ∨
      (taken.world.contains address = true ∧
        deploy deployment before = .error (.addressCollision address) taken) := by
  simp only [deploy, bind, EStateM.bind, takes]
  rcases place_cases taken address deployment.account with ⟨fresh, places⟩ | ⟨held, collides⟩
  · left
    rw [places]
    exact ⟨fresh, rfl⟩
  · right
    rw [collides]
    exact ⟨held, rfl⟩

theorem fundKey_cases (key : PrivateKey) (amount : Word) :
    (before.world.contains key.address = false ∧ fundKey key amount before =
        .ok ⟨key.address, key⟩ { before with
          world := before.world.insert key.address { balance := amount }
          keys := before.keys.insert key.address key }) ∨
      (before.world.contains key.address = true ∧
        fundKey key amount before = .error (.addressCollision key.address) before) := by
  simp only [fundKey, bind, EStateM.bind]
  rcases place_cases before key.address { balance := amount } with
    ⟨fresh, places⟩ | ⟨held, collides⟩
  · left
    rw [places]
    exact ⟨fresh, rfl⟩
  · right
    rw [collides]
    exact ⟨held, rfl⟩

end

namespace Request

theorem describes_deploy (deployment : Deployment) :
    (deploy deployment).Describes deployment.account := by
  have whole := Account.setSlots_eq
    { code := deployment.code, balance := deployment.balance, nonce := deployment.nonce }
    deployment.storage
  rw [Describes, Deployment.account]
  refine ⟨?_, ?_, ?_, fun key => ?_⟩
  · rw [whole]
  · rw [whole]
  · rw [whole]
  · rw [Account.slot_setSlots]
    rfl

section

variable {before taken now : Allocator} {request : Request} {placed : Placed} {account : Account}

theorem Adds.of_insert (fresh : before.world.contains placed.address = false)
    (described : request.Describes account)
    (world : now.world = before.world.insert placed.address account)
    (keys : now.keys = placed.key.elim before.keys (before.keys.insert placed.address))
    (counter : now.nextContract = request.nextContract before) :
    request.Adds before placed now := by
  refine ⟨fresh, ⟨account, described, fun other => ?_⟩, keys, counter⟩
  rw [world, World.get?_insert]

theorem ends_fundKey {key : PrivateKey} {amount : Word}
    (belongs : request.target before = .ok ⟨key.address, some key⟩)
    (described : request.Describes { balance := amount }) (kept : request.Keeps before taken) :
    request.Ends before ((fundKey key amount).perform taken) := by
  rw [perform]
  simp only [bind, EStateM.bind]
  rcases fundKey_cases taken key amount with ⟨fresh, funds⟩ | ⟨held, collides⟩
  · rw [kept.world] at fresh funds
    rw [kept.keys] at funds
    rw [funds]
    exact .added belongs (.of_insert fresh described rfl rfl kept.counter)
  · rw [kept.world] at held
    rw [collides]
    exact .taken belongs held kept

theorem ends_perform (request : Request) (before : Allocator) :
    request.Ends before (request.perform before) := by
  cases request with
  | deploy deployment =>
    have kept : (deploy deployment).Keeps before
        { before with nextContract := before.nextContract + contractStep } := ⟨rfl, rfl, rfl⟩
    rw [perform]
    simp only [bind, EStateM.bind]
    rcases deploy_cases before deployment rfl with ⟨fresh, deploys⟩ | ⟨held, collides⟩
    · rw [deploys]
      exact .added rfl (.of_insert fresh (describes_deploy deployment) rfl rfl rfl)
    · rw [collides]
      exact .taken rfl held kept
  | fund amount =>
    have kept : (fund amount).Keeps before { before with nextKey := before.nextKey + 1#256 } :=
      ⟨rfl, rfl, rfl⟩
    rw [perform]
    simp only [bind, EStateM.bind, Allocation.fund, takeKey]
    cases known : PrivateKey.ofBytes? before.nextKey.toBytes with
    | ok key =>
      have belongs : (fund amount).target before = .ok ⟨key.address, some key⟩ := by
        rw [target, known]
        rfl
      exact ends_fundKey belongs rfl kept
    | error cause =>
      have nowhere : (fund amount).target before = .error cause := by
        rw [target, known]
        rfl
      exact .keyless nowhere kept
  | fundKey key amount => exact ends_fundKey rfl rfl ⟨rfl, rfl, rfl⟩
  | insert address account =>
    have kept : (insert address account).Keeps before before := ⟨rfl, rfl, rfl⟩
    rw [perform]
    simp only [bind, EStateM.bind]
    rcases place_cases before address account with ⟨fresh, places⟩ | ⟨held, collides⟩
    · rw [places]
      exact .added rfl (.of_insert fresh rfl rfl rfl rfl)
    · rw [collides]
      exact .taken rfl held kept

end

theorem nextContract_leave (request : Request) (before : Allocator) :
    (request.leave before).nextContract = request.nextContract before := by
  have ends := request.ends_perform before
  rw [leave]
  generalize request.perform before = result at ends ⊢
  cases ends with
  | added belongs adds => exact adds.counter
  | taken belongs held keeps => exact keeps.counter
  | keyless nowhere keeps => exact keeps.counter

theorem contains_leave (request : Request) {before : Allocator} {address : Address}
    (held : before.world.contains address = true) :
    (request.leave before).world.contains address = true := by
  have ends := request.ends_perform before
  rw [leave]
  generalize request.perform before = result at ends ⊢
  cases ends with
  | added belongs adds =>
    obtain ⟨account, -, world⟩ := adds.world
    rw [World.contains, world]
    split
    · rfl
    · exact held
  | taken belongs other keeps => exact keeps.world ▸ held
  | keyless nowhere keeps => exact keeps.world ▸ held

theorem keys_leave (request : Request) {before : Allocator} {address : Address} {key : PrivateKey}
    (known : (request.leave before).keys.get? address = some key) :
    before.keys.get? address = some key ∨
      request.target before = .ok ⟨address, some key⟩ ∧
        (request.leave before).world.contains address = true ∧
        ∃ now, request.perform before = .ok ⟨address, some key⟩ now := by
  have ends := request.ends_perform before
  rw [leave] at known ⊢
  generalize request.perform before = result at ends known ⊢
  cases ends with
  | @added placed now belongs adds =>
    obtain ⟨place, given⟩ := placed
    rw [adds.keys] at known
    cases given with
    | none => exact .inl known
    | some new =>
      rw [Option.elim, SortedMap.get?_insert] at known
      split at known
      · rename_i ranks
        cases Key.rank_injective ranks
        cases known
        obtain ⟨account, -, world⟩ := adds.world
        have present : now.world.contains place = true := by
          rw [World.contains, world, if_pos rfl]
          rfl
        exact .inr ⟨belongs, present, now, rfl⟩
      · exact .inl known
  | taken belongs held keeps => exact .inl (keeps.keys ▸ known)
  | keyless nowhere keeps => exact .inl (keeps.keys ▸ known)

theorem funds_of_target {request : Request} {before : Allocator} {address : Address}
    {key : PrivateKey} (belongs : request.target before = .ok ⟨address, some key⟩) :
    key.address = address ∧ ∃ amount, request = .fund amount ∨ request = .fundKey key amount := by
  cases request with
  | deploy deployment => cases belongs
  | fund amount =>
    rw [target] at belongs
    cases known : PrivateKey.ofBytes? before.nextKey.toBytes with
    | error cause =>
      rw [known] at belongs
      cases belongs
    | ok own =>
      rw [known] at belongs
      cases belongs
      exact ⟨rfl, amount, .inl rfl⟩
  | fundKey own amount =>
    cases belongs
    exact ⟨rfl, amount, .inr rfl⟩
  | insert place account => cases belongs

end Request

theorem after_append (earlier : List Request) (request : Request) :
    after (earlier ++ [request]) = request.leave (after earlier) := by
  rw [after, List.foldl_append]
  rfl

theorem toNat_nextContract_after (requests : List Request)
    (few : requests.countP Request.isDeployment < 2 ^ 40) :
    (after requests).nextContract.toNat =
      0x1000 + 0x100 * requests.countP Request.isDeployment := by
  induction requests using List.reverseRecOn with
  | nil => rfl
  | append_singleton earlier request ih =>
    rw [List.countP_append, List.countP_singleton] at few ⊢
    have before := ih (Nat.lt_of_le_of_lt (Nat.le_add_right _ _) few)
    rw [after_append, Request.nextContract_leave, Request.nextContract]
    cases deploys : request.isDeployment with
    | false => exact before
    | true =>
      have step : contractStep.toNat = 0x100 := rfl
      rw [deploys, if_pos rfl] at few
      rw [if_pos rfl, if_pos rfl, UInt64.toNat_add, before, step]
      omega

theorem target_deploy_after (earlier : List Request) (deployment : Deployment)
    (few : earlier.countP Request.isDeployment < 2 ^ 40) :
    (Request.deploy deployment).target (after earlier) =
      .ok ⟨contractAddress (earlier.countP Request.isDeployment), none⟩ := by
  rw [Request.target, contractAddress, toNat_nextContract_after earlier few]

/-- A kept key controls its account, which exists and was funded under it. -/
structure Controls (requests : List Request) (address : Address) (key : PrivateKey) : Prop where
  own : key.address = address
  present : (after requests).world.contains address = true
  funded : Funded requests address key

theorem Controls.append {earlier : List Request} {address : Address} {key : PrivateKey}
    (controls : Controls earlier address key) (request : Request)
    (stays : (after (earlier ++ [request])).world.contains address = true) :
    Controls (earlier ++ [request]) address key := by
  obtain ⟨prior, earliest, later, same, funds, performs⟩ := controls.funded
  refine ⟨controls.own, stays, prior, earliest, later ++ [request], ?_, funds, performs⟩
  rw [same, List.append_assoc, List.cons_append]

theorem controls_after (requests : List Request) {address : Address} {key : PrivateKey}
    (known : (after requests).keys.get? address = some key) : Controls requests address key := by
  induction requests using List.reverseRecOn with
  | nil => cases known
  | append_singleton earlier request ih =>
    rw [after_append] at known
    rcases request.keys_leave known with before | ⟨belongs, present, now, performs⟩
    · have controls := ih before
      apply controls.append request
      rw [after_append]
      exact request.contains_leave controls.present
    · obtain ⟨own, funds⟩ := Request.funds_of_target belongs
      rw [← after_append] at present
      exact ⟨own, present, earlier, request, [], rfl, funds, now, performs⟩

/-- Whatever was asked of an allocator before: a request adds one account where it belongs, unless
that place is taken, and a request that fails changes neither accounts nor keys. The place of a
contract is given by the number of attempts, and keys that are kept control funded accounts. -/
theorem allocation_never_clobbers (earlier : List Request) (request : Request)
    (few : (earlier ++ [request]).countP Request.isDeployment < 2 ^ 40) :
    request.Ends (after earlier) (request.perform (after earlier)) ∧
    (∀ deployment, request = .deploy deployment → request.target (after earlier) =
      .ok ⟨contractAddress (earlier.countP Request.isDeployment), none⟩) ∧
    ∀ address key, (after (earlier ++ [request])).keys.get? address = some key →
      Controls (earlier ++ [request]) address key := by
  rw [List.countP_append] at few
  have fewer : earlier.countP Request.isDeployment < 2 ^ 40 :=
    Nat.lt_of_le_of_lt (Nat.le_add_right _ _) few
  refine ⟨request.ends_perform (after earlier), ?_, ?_⟩
  · rintro deployment rfl
    exact target_deploy_after earlier deployment fewer
  · intro address key known
    exact controls_after (earlier ++ [request]) known

def preempted : List Request := [.insert (contractAddress 0) { nonce := 7 }, .deploy {}]

theorem allocation_never_clobbers_preempted : ∃ now,
    (Request.deploy { code := [0xfe] }).perform (after preempted) =
        .ok ⟨contractAddress 1, none⟩ now ∧
      now.world.get? (contractAddress 0) = some { nonce := 7 } := by
  have few : (preempted ++ [Request.deploy { code := [0xfe] }]).countP Request.isDeployment <
      2 ^ 40 := by
    decide
  have free : (after preempted).world.contains (contractAddress 1) = false := by
    decide +kernel
  have stands : (after preempted).world.get? (contractAddress 0) = some { nonce := 7 } := by
    decide +kernel
  obtain ⟨ends, places, -⟩ := allocation_never_clobbers _ _ few
  have goes : (Request.deploy { code := [0xfe] }).target (after preempted) =
      .ok ⟨contractAddress 1, none⟩ := places _ rfl
  generalize (Request.deploy { code := [0xfe] }).perform (after preempted) = result at ends ⊢
  cases ends with
  | @added placed now belongs adds =>
    cases goes.symm.trans belongs
    obtain ⟨account, -, world⟩ := adds.world
    refine ⟨now, rfl, ?_⟩
    rw [world, if_neg (by decide), stands]
  | taken belongs held keeps =>
    cases goes.symm.trans belongs
    rw [free] at held
    cases held
  | keyless nowhere keeps => cases goes.symm.trans nowhere

end Allocation

end Scenario

end StateTransition
