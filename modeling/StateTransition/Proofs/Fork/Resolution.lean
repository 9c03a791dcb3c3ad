import StateTransition.Proofs.Fork.Lookup

/-!
Tables made of layers in any order. A look-up finds the latest fork up to the one asked about for
which some layer sets the parameter, and the value that was set last for that fork. Layers for later
forks and the order of layers for different forks have no part in it, and the flattened rules say
the same as the look-up.
-/

namespace StateTransition

/-- What a layer assigns to a parameter for a fork. -/
def Layer.assigns? (layer : Layer) (fork : Fork) (param : Param) : Option UInt64 :=
  if layer.fork = fork then layer.values.get? param else none

theorem Layer.assigns?_ofList (fork : Fork) (settings : List (Param × UInt64)) (param : Param) :
    (Layer.ofList fork settings).assigns? fork param = lastAssigned param settings := by
  rw [assigns?, ofList, if_pos rfl, SortedMap.get?_ofList]

/-- Some layer for the fork sets the parameter. -/
def Sets (layers : List Layer) (fork : Fork) (param : Param) : Prop :=
  ∃ layer ∈ layers, (layer.assigns? fork param).isSome = true

/-- The last layer for the fork that sets the parameter sets it to the value. -/
def SetsLast (layers : List Layer) (fork : Fork) (param : Param) (value : UInt64) : Prop :=
  ∃ before layer after, layers = before ++ layer :: after ∧
    layer.assigns? fork param = some value ∧ ∀ later ∈ after, later.assigns? fork param = none

/-- The latest fork up to this one for which some layer sets the parameter. -/
structure IsNearest (layers : List Layer) (fork : Fork) (param : Param) (origin : Fork) :
    Prop where
  le : origin ≤ fork
  sets : Sets layers origin param
  latest : ∀ other, other ≤ fork → Sets layers other param → other ≤ origin

/-- The same layers up to a fork in the same order; those for later forks may differ, and stand
anywhere. -/
def SameUpTo (fork : Fork) (left right : List Layer) : Prop :=
  (left.filter fun layer => layer.fork ≤ fork) = right.filter fun layer => layer.fork ≤ fork

/-- The same layers, in the same order for each fork but not among the forks. -/
def SameForEach (left right : List Layer) : Prop :=
  ∀ fork, (left.filter fun layer => layer.fork = fork) = right.filter fun layer => layer.fork = fork

section Entries

variable {κ ν β : Type} [Key κ] {entries : List (κ × ν)}

theorem findSome?_reverse_eq_some {answer : κ × ν → Option β} {result : β}
    (sorted : KeysIncrease entries) :
    entries.reverse.findSome? answer = some result ↔
      ∃ entry ∈ entries, answer entry = some result ∧
        ∀ other ∈ entries, Key.rank entry.1 < Key.rank other.1 → answer other = none := by
  constructor
  · intro found
    obtain ⟨later, entry, earlier, split, answers, silent⟩ := List.findSome?_eq_some_iff.mp found
    have parts : entries = earlier.reverse ++ entry :: later.reverse := by
      simpa using congrArg List.reverse split
    rw [parts] at sorted
    refine ⟨entry, by simp [parts], answers, ?_⟩
    intro other member above
    rw [parts, List.mem_append, List.mem_cons] at member
    rcases member with before | same | after
    · have below := (List.pairwise_append.mp sorted).2.2 other before entry List.mem_cons_self
      omega
    · rw [same] at above
      omega
    · exact silent other (List.mem_reverse.mp after)
  · rintro ⟨entry, member, answers, silent⟩
    obtain ⟨earlier, later, parts⟩ := List.append_of_mem member
    rw [parts] at sorted
    have rest := List.pairwise_cons.mp (List.pairwise_append.mp sorted).2.1
    refine List.findSome?_eq_some_iff.mpr ⟨later.reverse, entry, earlier.reverse, by simp [parts],
      answers, ?_⟩
    intro other after
    have there := List.mem_reverse.mp after
    exact silent other (by simp [parts, there]) (rest.1 other there)

theorem rank_le_of_find? {condition : κ × ν → Bool} {entry other : κ × ν}
    (sorted : KeysIncrease entries) (found : entries.find? condition = some entry)
    (member : other ∈ entries) (meets : condition other = true) :
    Key.rank entry.1 ≤ Key.rank other.1 := by
  obtain ⟨_, earlier, later, parts, fails⟩ := List.find?_eq_some_iff_append.mp found
  rw [parts] at sorted member
  have rest := List.pairwise_cons.mp (List.pairwise_append.mp sorted).2.1
  rw [List.mem_append, List.mem_cons] at member
  rcases member with before | same | after
  · have fail := fails other before
    rw [meets] at fail
    cases fail
  · exact Nat.le_of_eq (congrArg (fun entry => Key.rank entry.1) same.symm)
  · exact Nat.le_of_lt (rest.1 other after)

end Entries

namespace ForkTable

def assigned? (table : ForkTable) (fork : Fork) (param : Param) : Option UInt64 :=
  (table.layers.get? fork).bind fun values => values.get? param

variable {table : ForkTable} {layers : List Layer} {fork origin : Fork} {param : Param}
  {value : UInt64}

theorem assigned?_addLayer (table : ForkTable) (layer : Layer) (fork : Fork) (param : Param) :
    (table.addLayer layer).assigned? fork param =
      (layer.assigns? fork param).or (table.assigned? fork param) := by
  rw [assigned?, addLayer, SortedMap.get?_insert, Layer.assigns?]
  by_cases same : layer.fork = fork
  · rw [if_pos (congrArg Key.rank same), if_pos same, Option.bind_some, SortedMap.get?_insertMany,
      SortedMap.lastAssigned_toList, same, assigned?]
    cases table.layers.get? fork <;> rfl
  · rw [if_neg fun ranks => same (Key.rank_injective ranks), if_neg same, Option.none_or, assigned?]

theorem assigned?_foldl_addLayer (table : ForkTable) (layers : List Layer) (fork : Fork)
    (param : Param) :
    (layers.foldl addLayer table).assigned? fork param =
      (layers.reverse.findSome? fun layer => layer.assigns? fork param).or
        (table.assigned? fork param) := by
  induction layers generalizing table with
  | nil => rfl
  | cons layer rest ih =>
    rw [List.foldl_cons, ih, assigned?_addLayer, List.reverse_cons, List.findSome?_append,
      Option.or_assoc]
    simp

theorem assigned?_ofLayers (layers : List Layer) (fork : Fork) (param : Param) :
    (ofLayers layers).assigned? fork param =
      layers.reverse.findSome? fun layer => layer.assigns? fork param :=
  (assigned?_foldl_addLayer empty layers fork param).trans (Option.or_none)

theorem assigned?_ofLayers_eq_some :
    (ofLayers layers).assigned? fork param = some value ↔ SetsLast layers fork param value := by
  rw [assigned?_ofLayers, List.findSome?_eq_some_iff]
  constructor
  · rintro ⟨after, layer, before, split, assigns, silent⟩
    refine ⟨before.reverse, layer, after.reverse, by simpa using congrArg List.reverse split,
      assigns, ?_⟩
    intro later member
    exact silent later (List.mem_reverse.mp member)
  · rintro ⟨before, layer, after, parts, assigns, silent⟩
    refine ⟨after.reverse, layer, before.reverse, by simp [parts], assigns, ?_⟩
    intro later member
    exact silent later (List.mem_reverse.mp member)

theorem sets_iff : Sets layers fork param ↔ (ofLayers layers).assigned? fork param ≠ none := by
  rw [assigned?_ofLayers, ← Option.isSome_iff_ne_none, List.findSome?_isSome_iff]
  simp only [Sets, List.mem_reverse]

theorem mem_toList_of_assigned? (assigned : table.assigned? fork param = some value) :
    ∃ values, (fork, values) ∈ table.layers.toList ∧ values.get? param = some value := by
  obtain ⟨values, held, known⟩ := Option.bind_eq_some_iff.mp assigned
  exact ⟨values, (SortedMap.mem_toList_iff _ _ _).mpr held, known⟩

theorem assigned?_of_mem {values : SortedMap Param UInt64}
    (member : (fork, values) ∈ table.layers.toList) :
    table.assigned? fork param = values.get? param := by
  rw [assigned?, (SortedMap.mem_toList_iff _ _ _).mp member, Option.bind_some]

theorem mem_visible {entry : Fork × SortedMap Param UInt64} :
    entry ∈ table.visible fork ↔ entry ∈ table.layers.toList ∧ entry.1 ≤ fork := by
  simp [visible]

theorem keysIncrease_visible (table : ForkTable) (fork : Fork) :
    KeysIncrease (table.visible fork) :=
  table.layers.sorted.filter _

/-- What a look-up comes upon, walking back through the layers. -/
def nearest? (table : ForkTable) (fork : Fork) (param : Param) : Option (UInt64 × Fork) :=
  (table.visible fork).reverse.findSome? fun layer =>
    (layer.2.get? param).map fun value => (value, layer.1)

theorem lookupWithOrigin_eq (table : ForkTable) (fork : Fork) (param : Param) :
    table.lookupWithOrigin fork param =
      match table.nearest? fork param with
      | some result => .ok result
      | none => .error (.featureNotActive fork param) := rfl

theorem lookupWithOrigin_eq_ok :
    table.lookupWithOrigin fork param = .ok (value, origin) ↔
      origin ≤ fork ∧ table.assigned? origin param = some value ∧
        ∀ later, later ≤ fork → origin < later → table.assigned? later param = none := by
  have search : table.lookupWithOrigin fork param = .ok (value, origin) ↔
      table.nearest? fork param = some (value, origin) := by
    rw [lookupWithOrigin_eq]
    cases table.nearest? fork param <;> simp
  rw [search, nearest?, findSome?_reverse_eq_some (keysIncrease_visible table fork)]
  constructor
  · rintro ⟨⟨found, values⟩, member, answers, silent⟩
    obtain ⟨_, known, same⟩ := Option.map_eq_some_iff.mp answers
    cases same
    obtain ⟨listed, before⟩ := mem_visible.mp member
    refine ⟨before, by rw [assigned?_of_mem listed, known], ?_⟩
    intro later upTo above
    rw [Option.eq_none_iff_forall_ne_some]
    intro other assigned
    obtain ⟨values, there, known⟩ := mem_toList_of_assigned? assigned
    have nothing := silent _ (mem_visible.mpr ⟨there, upTo⟩) above
    rw [known] at nothing
    cases nothing
  · rintro ⟨upTo, assigned, silent⟩
    obtain ⟨values, there, known⟩ := mem_toList_of_assigned? assigned
    refine ⟨(origin, values), mem_visible.mpr ⟨there, upTo⟩, by rw [known]; rfl, ?_⟩
    rintro ⟨later, others⟩ member above
    obtain ⟨listed, before⟩ := mem_visible.mp member
    have nothing := silent later before above
    rw [assigned?_of_mem listed] at nothing
    rw [nothing]
    rfl

theorem lookupWithOrigin_eq_error :
    table.lookupWithOrigin fork param = .error (.featureNotActive fork param) ↔
      ∀ earlier, earlier ≤ fork → table.assigned? earlier param = none := by
  have search : table.lookupWithOrigin fork param = .error (.featureNotActive fork param) ↔
      table.nearest? fork param = none := by
    rw [lookupWithOrigin_eq]
    cases table.nearest? fork param <;> simp
  rw [search, nearest?, List.findSome?_eq_none_iff]
  constructor
  · intro silent earlier upTo
    rw [Option.eq_none_iff_forall_ne_some]
    intro value assigned
    obtain ⟨values, there, known⟩ := mem_toList_of_assigned? assigned
    have nothing := silent _ (List.mem_reverse.mpr (mem_visible.mpr ⟨there, upTo⟩))
    rw [known] at nothing
    cases nothing
  · rintro silent ⟨earlier, values⟩ member
    obtain ⟨listed, before⟩ := mem_visible.mp (List.mem_reverse.mp member)
    have nothing := silent earlier before
    rw [assigned?_of_mem listed] at nothing
    rw [nothing]
    rfl

theorem lookupWithOrigin_cases (table : ForkTable) (fork : Fork) (param : Param) :
    (∃ value origin, table.lookupWithOrigin fork param = .ok (value, origin)) ∨
      table.lookupWithOrigin fork param = .error (.featureNotActive fork param) := by
  rw [lookupWithOrigin_eq]
  cases table.nearest? fork param with
  | some result => exact .inl ⟨result.1, result.2, rfl⟩
  | none => exact .inr rfl

theorem lookup_eq_ok :
    table.lookup fork param = .ok value ↔
      ∃ origin, table.lookupWithOrigin fork param = .ok (value, origin) := by
  rw [lookup]
  cases table.lookupWithOrigin fork param with
  | error cause => simp [Except.map]
  | ok result =>
    obtain ⟨found, origin⟩ := result
    simp [Except.map]

theorem lt_activation?_iff :
    (∀ first, table.activation? param = some first → fork < first) ↔
      ∀ earlier, earlier ≤ fork → table.assigned? earlier param = none := by
  constructor
  · intro later earlier upTo
    rw [Option.eq_none_iff_forall_ne_some]
    intro value assigned
    obtain ⟨values, there, known⟩ := mem_toList_of_assigned? assigned
    have defines : values.contains param = true := by rw [SortedMap.contains, known]; rfl
    have some : (table.layers.toList.find? fun layer => layer.2.contains param).isSome = true :=
      List.find?_isSome.mpr ⟨(earlier, values), there, defines⟩
    obtain ⟨entry, found⟩ := Option.isSome_iff_exists.mp some
    have lowest : entry.1.index ≤ earlier.index :=
      rank_le_of_find? table.layers.sorted found there defines
    have beyond : fork.index < entry.1.index :=
      later entry.1 (by rw [activation?, found]; rfl)
    have upTo : earlier.index ≤ fork.index := upTo
    omega
  · intro silent first activates
    obtain ⟨⟨activated, values⟩, found, same⟩ := Option.map_eq_some_iff.mp activates
    have listed := List.mem_of_find?_eq_some found
    have defines : values.contains param = true := by simpa using List.find?_some found
    apply Nat.lt_of_not_le
    intro upTo
    have nothing := silent first upTo
    rw [← same, assigned?_of_mem listed] at nothing
    rw [SortedMap.contains, nothing] at defines
    cases defines

theorem get?_foldl_addLayer (table : ForkTable) (layers : List Layer) (fork : Fork) :
    (layers.foldl addLayer table).layers.get? fork =
      (layers.filter fun layer => layer.fork = fork).foldl
        (fun known layer => some ((known.getD ∅).insertMany layer.values.toList))
        (table.layers.get? fork) := by
  induction layers generalizing table with
  | nil => rfl
  | cons layer rest ih =>
    rw [List.foldl_cons, ih, addLayer, SortedMap.get?_insert]
    by_cases same : layer.fork = fork
    · rw [if_pos (congrArg Key.rank same), List.filter_cons_of_pos (by simpa using same),
        List.foldl_cons, same]
    · rw [if_neg fun ranks => same (Key.rank_injective ranks),
        List.filter_cons_of_neg (by simpa using same)]

theorem get?_ofLayers_congr {left right : List Layer}
    (same : (left.filter fun layer => layer.fork = fork) =
      right.filter fun layer => layer.fork = fork) :
    (ofLayers left).layers.get? fork = (ofLayers right).layers.get? fork := by
  rw [ofLayers, ofLayers, get?_foldl_addLayer, get?_foldl_addLayer, same]

theorem visible_congr {left right : ForkTable}
    (same : ∀ earlier, earlier ≤ fork → left.layers.get? earlier = right.layers.get? earlier) :
    left.visible fork = right.visible fork := by
  have maps : (⟨left.visible fork, keysIncrease_visible left fork⟩ :
      SortedMap Fork (SortedMap Param UInt64)) =
        ⟨right.visible fork, keysIncrease_visible right fork⟩ := by
    ext earlier values
    rw [← SortedMap.mem_toList_iff, ← SortedMap.mem_toList_iff, mem_visible, mem_visible,
      SortedMap.mem_toList_iff, SortedMap.mem_toList_iff]
    exact and_congr_left fun upTo => by rw [same earlier upTo]
  exact congrArg SortedMap.toList maps

theorem visible_ofLayers_congr {left right : List Layer} (same : SameUpTo fork left right) :
    (ofLayers left).visible fork = (ofLayers right).visible fork := by
  apply visible_congr
  intro earlier upTo
  have narrower (layers : List Layer) :
      ((layers.filter fun layer => layer.fork ≤ fork).filter fun layer => layer.fork = earlier) =
        layers.filter fun layer => layer.fork = earlier := by
    rw [List.filter_filter]
    apply List.filter_congr
    intro layer _
    by_cases here : layer.fork = earlier
    · simp [here, upTo]
    · simp [here]
  apply get?_ofLayers_congr
  rw [← narrower left, ← narrower right, same]

theorem ofLayers_congr {left right : List Layer} (same : SameForEach left right) :
    ofLayers left = ofLayers right :=
  congrArg ForkTable.mk (SortedMap.ext fun fork => get?_ofLayers_congr (same fork))

theorem value_rules_eq_lookup (table : ForkTable) (fork : Fork) (param : Param) :
    (table.rules fork).value param = (table.lookup fork param).toOption := by
  have found : (table.rules fork).value param = (table.nearest? fork param).map Prod.fst := by
    rw [value_rules, nearest?, List.map_findSome?]
    congr 1
    funext layer
    simp [Function.comp_def]
  rw [found, lookup, lookupWithOrigin_eq]
  cases table.nearest? fork param <;> rfl

theorem get_rules_eq_lookup (table : ForkTable) (fork : Fork) (param : Param) :
    (table.rules fork).get param = table.lookup fork param := by
  rw [Rules.get, value_rules_eq_lookup, fork_rules, lookup]
  rcases lookupWithOrigin_cases table fork param with ⟨value, origin, found⟩ | missing
  · rw [found]
    rfl
  · rw [missing]
    rfl

theorem opcodePrice_rules_eq_lookup (table : ForkTable) (fork : Fork) (byte : UInt8) :
    (table.rules fork).opcodePrice byte = (table.lookup fork (.opcode byte)).toOption :=
  (indexed_rules table fork byte).trans (value_rules_eq_lookup table fork (.opcode byte))

theorem isNearest_and_setsLast_iff :
    IsNearest layers fork param origin ∧ SetsLast layers origin param value ↔
      (ofLayers layers).lookupWithOrigin fork param = .ok (value, origin) := by
  rw [lookupWithOrigin_eq_ok, assigned?_ofLayers_eq_some]
  constructor
  · rintro ⟨⟨upTo, _, latest⟩, last⟩
    refine ⟨upTo, last, ?_⟩
    intro later before above
    by_cases nothing : (ofLayers layers).assigned? later param = none
    · exact nothing
    · exact absurd (latest later before (sets_iff.mpr nothing)) (Nat.not_le_of_lt above)
  · rintro ⟨upTo, last, silent⟩
    have assigned := assigned?_ofLayers_eq_some.mpr last
    refine ⟨⟨upTo, sets_iff.mpr (by rw [assigned]; nofun), ?_⟩, last⟩
    intro other before sets
    apply Nat.le_of_not_lt
    intro above
    exact sets_iff.mp sets (silent other before above)

theorem not_isNearest_iff :
    (∀ origin, ¬ IsNearest layers fork param origin) ↔
      ∀ earlier, earlier ≤ fork → (ofLayers layers).assigned? earlier param = none := by
  constructor
  · intro none
    rcases lookupWithOrigin_cases (ofLayers layers) fork param with ⟨value, origin, found⟩ | missing
    · exact absurd (isNearest_and_setsLast_iff.mpr found).1 (none origin)
    · exact lookupWithOrigin_eq_error.mp missing
  · intro silent origin nearest
    exact sets_iff.mp nearest.sets (silent origin nearest.le)

theorem lookup_of_le {later : Fork} (after : fork ≤ later)
    (found : table.lookup fork param = .ok value) :
    ∃ newer, table.lookup later param = .ok newer := by
  obtain ⟨origin, found⟩ := lookup_eq_ok.mp found
  obtain ⟨upTo, assigned, _⟩ := lookupWithOrigin_eq_ok.mp found
  rcases lookupWithOrigin_cases table later param with ⟨newer, there, known⟩ | missing
  · exact ⟨newer, lookup_eq_ok.mpr ⟨there, known⟩⟩
  · rw [lookupWithOrigin_eq_error.mp missing origin (Nat.le_trans upTo after)] at assigned
    cases assigned

/-- Look-ups are exact in a table of any layers: they find the value that was set last for the
nearest fork that has one, and fail where there is none, which is before the activation of the
parameter. Layers for later forks and the order among forks do not count, nothing that is defined
is lost later, and the flattened rules agree with the look-up in all they say. -/
theorem lookup_exact (layers : List Layer) (fork : Fork) (param : Param) :
    (∀ settings, (Layer.ofList fork settings).assigns? fork param = lastAssigned param settings) ∧
    (∀ value origin, (ofLayers layers).lookupWithOrigin fork param = .ok (value, origin) ↔
      IsNearest layers fork param origin ∧ SetsLast layers origin param value) ∧
    ((ofLayers layers).lookupWithOrigin fork param = .error (.featureNotActive fork param) ↔
      ∀ origin, ¬ IsNearest layers fork param origin) ∧
    ((∀ origin, ¬ IsNearest layers fork param origin) ↔
      ∀ first, (ofLayers layers).activation? param = some first → fork < first) ∧
    (∀ extended, SameUpTo fork extended layers →
      (ofLayers extended).lookupWithOrigin fork = (ofLayers layers).lookupWithOrigin fork ∧
        (ofLayers extended).lookup fork = (ofLayers layers).lookup fork ∧
        (ofLayers extended).rules fork = (ofLayers layers).rules fork) ∧
    (∀ permuted, SameForEach permuted layers → ofLayers permuted = ofLayers layers) ∧
    (∀ later value, fork ≤ later → (ofLayers layers).lookup fork param = .ok value →
      ∃ newer, (ofLayers layers).lookup later param = .ok newer) ∧
    ((ofLayers layers).rules fork).value param = ((ofLayers layers).lookup fork param).toOption ∧
    ((ofLayers layers).rules fork).get param = (ofLayers layers).lookup fork param ∧
    ∀ byte, ((ofLayers layers).rules fork).opcodePrice byte =
        ((ofLayers layers).lookup fork (.opcode byte)).toOption ∧
      ((ofLayers layers).rules fork).opcodeGas byte =
        ((ofLayers layers).lookup fork (.opcode byte)).toOption.map UInt64.toNat := by
  refine ⟨?settings, ?exact, ?missing, ?activation, ?extended, ?permuted, ?kept, ?value, ?get,
    ?opcode⟩
  case settings =>
    intro settings
    exact Layer.assigns?_ofList fork settings param
  case exact =>
    intro value origin
    exact isNearest_and_setsLast_iff.symm
  case missing => rw [lookupWithOrigin_eq_error, not_isNearest_iff]
  case activation => rw [not_isNearest_iff, lt_activation?_iff]
  case extended =>
    intro extended same
    have visible := visible_ofLayers_congr same
    have origins : (ofLayers extended).lookupWithOrigin fork =
        (ofLayers layers).lookupWithOrigin fork := by
      funext param
      rw [lookupWithOrigin, lookupWithOrigin, visible]
    refine ⟨origins, ?_, by rw [rules, rules, visible]⟩
    funext param
    rw [lookup, lookup, origins]
  case permuted =>
    intro permuted same
    exact ofLayers_congr same
  case kept =>
    intro later value after found
    exact lookup_of_le after found
  case value => exact value_rules_eq_lookup _ fork param
  case get => exact get_rules_eq_lookup _ fork param
  case opcode =>
    intro byte
    have price := opcodePrice_rules_eq_lookup (ofLayers layers) fork byte
    exact ⟨price, congrArg _ price⟩

/-- A price that Berlin sets twice, at last to zero, before the layer of an earlier fork is added. -/
def repricedLayers : List Layer :=
  [.ofList .berlin [(.opcode 0x54, 800)], .ofList .cancun [(.opcode 0x54, 100)],
   .ofList .berlin [(.opcode 0x54, 0)], .ofList .frontier [(.opcode 0x54, 50)]]

theorem lookup_exact_repriced :
    (IsNearest repricedLayers .london (.opcode 0x54) .berlin ∧
      SetsLast repricedLayers .berlin (.opcode 0x54) 0) ∧
    (ofLayers repricedLayers).lookup .london =
      (ofLayers [.ofList .berlin [(.opcode 0x54, 800)], .ofList .berlin [(.opcode 0x54, 0)],
        .ofList .frontier [(.opcode 0x54, 50)]]).lookup .london ∧
    ((ofLayers repricedLayers).rules .london).opcodeGas 0x54 = some 0 := by
  have resolved := lookup_exact repricedLayers .london (.opcode 0x54)
  obtain ⟨_, exact, _, _, extended, _, _, _, _, opcodes⟩ := resolved
  have found : (ofLayers repricedLayers).lookupWithOrigin .london (.opcode 0x54) =
      .ok (0, .berlin) := rfl
  have known : (ofLayers repricedLayers).lookup .london (.opcode 0x54) = .ok 0 := rfl
  refine ⟨(exact 0 .berlin).mp found, (extended _ rfl).2.1.symm, ?_⟩
  rw [(opcodes 0x54).2, known]
  rfl

end ForkTable

end StateTransition
