import Mathlib.Algebra.BigOperators.Fin
import StateTransition.Proofs.Instruction.PaddedReads
import StateTransition.Proofs.Responses

/-!
Memory as a map from places to bytes that begins with zeros everywhere. A request writes just the
bytes of its target, which a copy takes as they were before; one that reaches past the end of memory
is refused and changes nothing.
-/

namespace StateTransition

theorem Bytes.ofBigEndian_map_range (count : Nat) (byte : Nat → UInt8) :
    Bytes.ofBigEndian ((List.range count).map byte) =
      ∑ place : Fin count, (byte place).toNat * 256 ^ (count - 1 - place.val) := by
  induction count generalizing byte with
  | zero => rfl
  | succ count ih =>
    rw [List.range_succ_eq_map, List.map_cons, List.map_map, ofBigEndian_cons, ih,
      Fin.sum_univ_succ, List.length_map, List.length_range]
    congr 1
    apply Finset.sum_congr rfl
    intro place _
    have below : count - 1 - place.val = count + 1 - 1 - (place.val + 1) := by omega
    simp only [Function.comp, Fin.val_succ, below]

namespace Evm

inductive MemoryRequest where
  | resize (words : Nat)
  | load (offset : Nat)
  | store (offset : Nat) (word : Word)
  | storeByte (offset : Nat) (byte : UInt8)
  | slice (offset size : Nat)
  | storeSlice (offset : Nat) (data : Bytes)
  | storePadded (offset : Nat) (source : Bytes) (start size : Nat)
  | copy (target source size : Nat)
  deriving DecidableEq, Repr

inductive MemoryAnswer where
  | done
  | word (word : Word)
  | bytes (bytes : Bytes)
  deriving DecidableEq, Repr

def MemoryRequest.ranges : MemoryRequest → List (Nat × Nat)
  | resize _ => []
  | load offset => [(offset, 32)]
  | store offset _ => [(offset, 32)]
  | storeByte offset _ => [(offset, 1)]
  | slice offset size => [(offset, size)]
  | storeSlice offset data => [(offset, data.length)]
  | storePadded offset _ _ size => [(offset, size)]
  | copy target source size => [(target, size), (source, size)]

namespace Memory

def ask? (memory : Memory) : MemoryRequest → Option (MemoryAnswer × Memory)
  | .resize words => some (.done, memory.resizeWords words)
  | .load offset => (memory.load? offset).map fun word => (.word word, memory)
  | .store offset word => (memory.store? offset word).map (.done, ·)
  | .storeByte offset byte => (memory.storeByte? offset byte).map (.done, ·)
  | .slice offset size => (memory.slice? offset size).map fun bytes => (.bytes bytes, memory)
  | .storeSlice offset data => (memory.storeSlice? offset data).map (.done, ·)
  | .storePadded offset source start size =>
    (memory.storePadded? offset source start size).map (.done, ·)
  | .copy target source size => (memory.copy? target source size).map (.done, ·)

def ask (memory : Memory) (request : MemoryRequest) : Except Halt (MemoryAnswer × Memory) :=
  (memory.ask? request).elim (.error .memoryFault) .ok

end Memory

/-- A byte for every place; the places below `size` can be reached. -/
@[ext] structure ByteMap where
  size : Nat
  byte : Nat → UInt8

namespace ByteMap

def zeros : ByteMap := ⟨0, fun _ => 0⟩

def overlay (map : ByteMap) (offset size : Nat) (bytes : Nat → UInt8) : ByteMap where
  size := map.size
  byte place :=
    if offset ≤ place ∧ place < offset + size then bytes (place - offset) else map.byte place

def word (map : ByteMap) (offset : Nat) : Word :=
  BitVec.ofNat 256 (∑ place : Fin 32, (map.byte (offset + place)).toNat * 256 ^ (31 - place.val))

def digit (word : Word) (place : Nat) : UInt8 := UInt8.ofNat (word.toNat / 256 ^ (31 - place))

def answer (map : ByteMap) : MemoryRequest → MemoryAnswer
  | .load offset => .word (map.word offset)
  | .slice offset size => .bytes ((List.range size).map fun place => map.byte (offset + place))
  | _ => .done

def after (map : ByteMap) : MemoryRequest → ByteMap
  | .resize words => { map with size := max map.size (32 * words) }
  | .load _ | .slice .. => map
  | .store offset word => map.overlay offset 32 (digit word)
  | .storeByte offset byte => map.overlay offset 1 fun _ => byte
  | .storeSlice offset data => map.overlay offset data.length fun place => data[place]?.getD 0
  | .storePadded offset source start size =>
    map.overlay offset size fun place => source[start + place]?.getD 0
  | .copy target source size => map.overlay target size fun place => map.byte (source + place)

/-- Whether a range lies inside; one of no bytes lies inside wherever it begins. -/
def Reaches (map : ByteMap) (range : Nat × Nat) : Prop := range.2 = 0 ∨ range.1 + range.2 ≤ map.size

instance (map : ByteMap) (range : Nat × Nat) : Decidable (map.Reaches range) :=
  inferInstanceAs (Decidable (_ ∨ _))

def ask (map : ByteMap) (request : MemoryRequest) : Except Halt (MemoryAnswer × ByteMap) :=
  if ∀ range ∈ request.ranges, map.Reaches range then .ok (map.answer request, map.after request)
  else .error .memoryFault

theorem overlay_congr {map : ByteMap} {offset size : Nat} {bytes others : Nat → UInt8}
    (same : ∀ place < size, bytes place = others place) :
    map.overlay offset size bytes = map.overlay offset size others := by
  apply ByteMap.ext
  · rfl
  · funext place
    simp only [overlay]
    split
    · apply same
      omega
    · rfl

end ByteMap

namespace Memory

variable {memory : Memory} {offset size : Nat}

/-- What memory shows: zeros past its end. -/
def image (memory : Memory) : ByteMap where
  size := memory.size
  byte place := memory.bytes[place]?.getD 0

theorem reaches_image_iff : memory.image.Reaches (offset, size) ↔ memory.covers offset size := by
  rw [covers_iff]
  rfl

theorem image_resizeWords (memory : Memory) (words : Nat) :
    (memory.resizeWords words).image = memory.image.after (.resize words) := by
  apply ByteMap.ext
  · simp only [image, size_resizeWords, ByteMap.after]
  · funext place
    simp only [image, resizeWords, ByteMap.after, Array.getElem?_append, Array.getElem?_replicate]
    grind

theorem image_write {data : Bytes} (covered : memory.covers offset data.length) :
    (memory.write offset data).image =
      memory.image.overlay offset data.length fun place => data[place]?.getD 0 := by
  rw [covers_iff] at covered
  apply ByteMap.ext
  · exact size_overwrite memory.bytes offset data
  · funext place
    simp only [image, write, getElem?_overwrite, ByteMap.overlay]
    grind

theorem slice?_eq (covered : memory.covers offset size) :
    memory.slice? offset size =
      some ((List.range size).map fun place => memory.image.byte (offset + place)) := by
  rw [slice?, if_pos covered]
  refine congrArg some (List.ext_getElem? fun place => ?_)
  rw [covers_iff] at covered
  simp only [image, Array.getElem?_toList, Array.getElem?_extract, List.getElem?_map]
  grind

variable {request : MemoryRequest} {answer : MemoryAnswer} {after : Memory}

theorem ask_image_of_some (after : Memory)
    (reached : ∀ range ∈ request.ranges, memory.image.Reaches range)
    (asked : memory.ask? request = some (answer, after))
    (answers : memory.image.answer request = answer)
    (leads : memory.image.after request = after.image) :
    memory.image.ask request = (memory.ask request).map (Prod.map id image) := by
  rw [ByteMap.ask, if_pos reached, answers, leads, ask, asked]
  rfl

theorem ask_image_of_none (among : (offset, size) ∈ request.ranges)
    (missed : ¬ memory.covers offset size) (asked : memory.ask? request = none) :
    memory.image.ask request = (memory.ask request).map (Prod.map id image) := by
  rw [← reaches_image_iff] at missed
  rw [ByteMap.ask, if_neg fun reached => missed (reached _ among), ask, asked]
  rfl

theorem ask_image_of_store (data : Bytes) (others : List (Nat × Nat)) (bytes : Nat → UInt8)
    (sized : data.length = size) (ranges : request.ranges = (offset, size) :: others)
    (asked : memory.ask? request = (memory.storeSlice? offset data).map (.done, ·))
    (answers : memory.image.answer request = .done)
    (leads : memory.image.after request = memory.image.overlay offset size bytes)
    (reached : ∀ range ∈ others, memory.image.Reaches range)
    (same : ∀ place < size, bytes place = data[place]?.getD 0) :
    memory.image.ask request = (memory.ask request).map (Prod.map id image) := by
  subst sized
  by_cases covered : memory.covers offset data.length
  · rw [storeSlice?, if_pos covered] at asked
    apply ask_image_of_some (memory.write offset data) _ asked answers
    · rw [leads, image_write covered]
      exact ByteMap.overlay_congr same
    · rw [ranges, List.forall_mem_cons]
      exact ⟨reaches_image_iff.mpr covered, reached⟩
  · rw [storeSlice?, if_neg covered] at asked
    apply ask_image_of_none _ covered asked
    rw [ranges]
    exact List.mem_cons_self

theorem ask_image_store (memory : Memory) (offset : Nat) (word : Word) :
    memory.image.ask (.store offset word) =
      (memory.ask (.store offset word)).map (Prod.map id image) := by
  apply ask_image_of_store _ [] (ByteMap.digit word) word.length_toBytes rfl rfl rfl rfl
    (List.forall_mem_nil _)
  intro place inside
  rw [Word.toBytes, Bytes.getElem?_toBigEndian, if_pos inside]
  rfl

theorem ask_image_storeByte (memory : Memory) (offset : Nat) (byte : UInt8) :
    memory.image.ask (.storeByte offset byte) =
      (memory.ask (.storeByte offset byte)).map (Prod.map id image) := by
  apply ask_image_of_store [byte] [] (fun _ => byte) rfl rfl rfl rfl rfl (List.forall_mem_nil _)
  intro place first
  rw [Nat.lt_one_iff.mp first]
  rfl

theorem ask_image_storeSlice (memory : Memory) (offset : Nat) (data : Bytes) :
    memory.image.ask (.storeSlice offset data) =
      (memory.ask (.storeSlice offset data)).map (Prod.map id image) :=
  ask_image_of_store data [] (fun place => data[place]?.getD 0) rfl rfl rfl rfl rfl
    (List.forall_mem_nil _) fun _ _ => rfl

theorem ask_image_storePadded (memory : Memory) (offset : Nat) (source : Bytes)
    (start size : Nat) :
    memory.image.ask (.storePadded offset source start size) =
      (memory.ask (.storePadded offset source start size)).map (Prod.map id image) := by
  apply ask_image_of_store _ [] (fun place => source[start + place]?.getD 0)
    (length_filled source start size) rfl rfl rfl rfl (List.forall_mem_nil _)
  intro place inside
  rw [filled_eq_padded, Bytes.getElem?_padded inside, Option.getD_some]

theorem ask_image_of_read (form : Bytes → MemoryAnswer) (ranges : request.ranges = [(offset, size)])
    (asked : memory.ask? request =
      (memory.slice? offset size).map fun bytes => (form bytes, memory))
    (answers : memory.image.answer request =
      form ((List.range size).map fun place => memory.image.byte (offset + place)))
    (leads : memory.image.after request = memory.image) :
    memory.image.ask request = (memory.ask request).map (Prod.map id image) := by
  by_cases covered : memory.covers offset size
  · rw [slice?_eq covered] at asked
    apply ask_image_of_some memory _ asked answers leads
    rw [ranges, List.forall_mem_singleton]
    exact reaches_image_iff.mpr covered
  · rw [slice?, if_neg covered] at asked
    apply ask_image_of_none _ covered asked
    rw [ranges]
    exact List.mem_singleton_self _

theorem ofBytes_places (map : ByteMap) (offset : Nat) :
    Word.ofBytes ((List.range 32).map fun place => map.byte (offset + place)) =
      map.word offset := by
  rw [Word.ofBytes, Word.ofNat, ByteMap.word, Bytes.ofBigEndian_map_range]

theorem ask_image_load (memory : Memory) (offset : Nat) :
    memory.image.ask (.load offset) = (memory.ask (.load offset)).map (Prod.map id image) := by
  apply ask_image_of_read (fun bytes => .word (Word.ofBytes bytes)) rfl _ _ rfl
  · rw [ask?, load?, Option.map_map]
    rfl
  · rw [ofBytes_places]
    rfl

/-- A copy reads its source before it writes, so that the two may overlap. -/
theorem ask_image_copy (memory : Memory) (target source size : Nat) :
    memory.image.ask (.copy target source size) =
      (memory.ask (.copy target source size)).map (Prod.map id image) := by
  by_cases covered : memory.covers source size
  · apply ask_image_of_store
      ((List.range size).map fun place => memory.image.byte (source + place)) [(source, size)]
      (fun place => memory.image.byte (source + place)) (by simp) rfl _ rfl rfl
    · simpa using reaches_image_iff.mpr covered
    · intro place inside
      simp [inside]
    · rw [ask?, copy?, slice?_eq covered]
      rfl
  · apply ask_image_of_none _ covered
    · rw [ask?, copy?, slice?, if_neg covered]
      rfl
    · simp [MemoryRequest.ranges]

theorem refines_byteMap : Refines ask ByteMap.ask image := by
  intro memory request
  cases request with
  | resize words =>
    exact ask_image_of_some _ (List.forall_mem_nil _) rfl rfl (image_resizeWords memory words).symm
  | load offset => exact ask_image_load memory offset
  | store offset word => exact ask_image_store memory offset word
  | storeByte offset byte => exact ask_image_storeByte memory offset byte
  | slice offset size => exact ask_image_of_read .bytes rfl rfl rfl rfl
  | storeSlice offset data => exact ask_image_storeSlice memory offset data
  | storePadded offset source start size =>
    exact ask_image_storePadded memory offset source start size
  | copy target source size => exact ask_image_copy memory target source size

theorem ask_eq_error_iff (memory : Memory) (request : MemoryRequest) (reason : Halt) :
    memory.ask request = .error reason ↔ reason = .memoryFault ∧
      ∃ range ∈ request.ranges, 0 < range.2 ∧ memory.size < range.1 + range.2 := by
  have refused : memory.image.ask request = .error reason ↔
      reason = .memoryFault ∧ ¬ ∀ range ∈ request.ranges, memory.image.Reaches range := by
    rw [ByteMap.ask]
    split
    · exact iff_of_false nofun fun missed => missed.2 ‹_›
    · rename_i missed
      rw [Except.error.injEq]
      exact ⟨fun same => ⟨same.symm, missed⟩, fun fault => fault.1.symm⟩
  rw [refines_byteMap.eq_error_iff, refused]
  simp only [ByteMap.Reaches, image, not_forall, not_or, Nat.not_le, exists_prop,
    Nat.pos_iff_ne_zero, ne_eq]

theorem size_le_of_ask (asked : memory.ask request = .ok (answer, after)) :
    memory.size ≤ after.size := by
  have same := refines_byteMap memory request
  rw [asked, ByteMap.ask] at same
  split at same
  · have leads := congrArg (fun served => served.map fun served => served.2.size) same
    have grown : (memory.image.after request).size = after.size := Except.ok.inj leads
    rw [← grown]
    cases request with
    | resize words => exact Nat.le_max_left _ _
    | _ => exact Nat.le_refl _
  · cases same

theorem size_le_serve (memory : Memory) (request : MemoryRequest) :
    memory.size ≤ (serve ask memory request).2.size := by
  rw [serve]
  split
  · rename_i asked
    exact size_le_of_ask asked
  · exact Nat.le_refl _

theorem storeSlice?_nil (memory : Memory) (offset : Nat) :
    memory.storeSlice? offset [] = some memory := rfl

theorem storePadded?_zero (memory : Memory) (offset : Nat) (source : Bytes) (start : Nat) :
    memory.storePadded? offset source start 0 = some memory := by
  have nothing : filled source start 0 = [] :=
    List.eq_nil_of_length_eq_zero (length_filled source start 0)
  rw [storePadded?, nothing, storeSlice?_nil]

theorem copy?_zero (memory : Memory) (target source : Nat) :
    memory.copy? target source 0 = some memory := by
  rw [copy?, slice?_zero]
  exact storeSlice?_nil memory target

theorem store?_bind_load? (memory : Memory) (offset : Nat) (word : Word) :
    ((memory.store? offset word).bind fun stored => stored.load? offset) =
      (memory.store? offset word).map fun _ => word := by
  rw [store?, storeSlice?]
  split
  · rename_i covered
    have back := slice?_write covered
    rw [Word.length_toBytes] at back
    rw [Option.bind_some, Option.map_some, load?, back, Option.map_some, Word.ofBytes_toBytes]
  · rfl

end Memory

def Exec.ofMemoryRequest : MemoryRequest → Exec MemoryAnswer
  | .resize words => do
    modifyFrame fun frame => { frame with memory := frame.memory.resizeWords words }
    return .done
  | .load offset => return .word (← loadWord offset)
  | .store offset word => do
    writeBytes offset word.toBytes
    return .done
  | .storeByte offset byte => do
    writeBytes offset [byte]
    return .done
  | .slice offset size => return .bytes (← readBytes offset size)
  | .storeSlice offset data => do
    writeBytes offset data
    return .done
  | .storePadded offset source start size => do
    writeBytes offset (Memory.filled source start size)
    return .done
  | .copy target source size => do
    writeBytes target (← readBytes source size)
    return .done

theorem Exec.writeBytes_eq (offset : Nat) (data : Bytes) (machine : Machine) :
    writeBytes offset data machine =
      match machine.frame.memory.storeSlice? offset data with
      | some memory => .ok () { machine with frame := { machine.frame with memory } }
      | none => .error .memoryFault machine := by
  rw [writeBytes, Memory.storeSlice?]
  split <;> rfl

theorem Exec.run_ofMemoryRequest (request : MemoryRequest) (machine : Machine) :
    ofMemoryRequest request machine =
      match machine.frame.memory.ask request with
      | .ok (answer, memory) => .ok answer { machine with frame := { machine.frame with memory } }
      | .error reason => .error reason machine := by
  cases request with
  | resize words => rfl
  | load offset =>
    simp only [ofMemoryRequest, bind, EStateM.bind, loadWord, Memory.ask, Memory.ask?]
    cases machine.frame.memory.load? offset <;> rfl
  | slice offset size =>
    simp only [ofMemoryRequest, bind, EStateM.bind, readBytes, Memory.ask, Memory.ask?]
    cases machine.frame.memory.slice? offset size <;> rfl
  | store offset word =>
    simp only [ofMemoryRequest, bind, EStateM.bind, writeBytes_eq, Memory.ask, Memory.ask?,
      Memory.store?]
    cases machine.frame.memory.storeSlice? offset word.toBytes <;> rfl
  | storeByte offset byte =>
    simp only [ofMemoryRequest, bind, EStateM.bind, writeBytes_eq, Memory.ask, Memory.ask?,
      Memory.storeByte?]
    cases machine.frame.memory.storeSlice? offset [byte] <;> rfl
  | storeSlice offset data =>
    simp only [ofMemoryRequest, bind, EStateM.bind, writeBytes_eq, Memory.ask, Memory.ask?]
    cases machine.frame.memory.storeSlice? offset data <;> rfl
  | storePadded offset source start size =>
    simp only [ofMemoryRequest, bind, EStateM.bind, writeBytes_eq, Memory.ask, Memory.ask?,
      Memory.storePadded?]
    cases machine.frame.memory.storeSlice? offset (Memory.filled source start size) <;> rfl
  | copy target source size =>
    simp only [ofMemoryRequest, bind, EStateM.bind, readBytes, Memory.ask, Memory.ask?,
      Memory.copy?]
    cases machine.frame.memory.slice? source size with
    | none => rfl
    | some data =>
      simp only [writeBytes_eq, Option.bind]
      cases machine.frame.memory.storeSlice? target data <;> rfl

/-- Whatever is asked of a memory that begins empty, it answers as a map of bytes does that begins
with zeros, and it shows the bytes of the map. It is whole words long and never shrinks. A request
is refused just where it reaches for bytes past the end, and then leaves memory, and the machine it
is part of, as it was; one for no bytes is granted anywhere and changes nothing. -/
theorem memory_acts_as_byte_map :
    (∀ requests : List MemoryRequest,
      respond ByteMap.ask ByteMap.zeros requests =
        (respond Memory.ask .empty requests).map id Memory.image) ∧
    (∀ (memory : Memory) (request : MemoryRequest),
      memory.size % 32 = 0 ∧ memory.size ≤ (serve Memory.ask memory request).2.size ∧
      ∀ reason, serve Memory.ask memory request = (.error reason, memory) ↔
        reason = .memoryFault ∧
          ∃ range ∈ request.ranges, 0 < range.2 ∧ memory.size < range.1 + range.2) ∧
    (∀ (memory : Memory) (target start : Nat) (source : Bytes),
      memory.slice? target 0 = some [] ∧
      memory.storeSlice? target [] = some memory ∧
      memory.storePadded? target source start 0 = some memory ∧
      memory.copy? target start 0 = some memory) ∧
    (∀ (memory : Memory) (offset : Nat) (word : Word),
      ((memory.store? offset word).bind fun stored => stored.load? offset) =
        (memory.store? offset word).map fun _ => word) ∧
    ∀ (request : MemoryRequest) (machine : Machine),
      Exec.ofMemoryRequest request machine =
        match machine.frame.memory.ask request with
        | .ok (answer, memory) =>
          .ok answer { machine with frame := { machine.frame with memory } }
        | .error reason => .error reason machine := by
  refine ⟨?_, ?_, ?_, Memory.store?_bind_load?, Exec.run_ofMemoryRequest⟩
  · intro requests
    exact Memory.refines_byteMap.respond .empty requests
  · intro memory request
    refine ⟨memory.aligned, memory.size_le_serve request, fun reason => ?_⟩
    rw [← Memory.ask_eq_error_iff, serve]
    cases memory.ask request <;> simp
  · intro memory target start source
    exact ⟨memory.slice?_zero target, memory.storeSlice?_nil target,
      memory.storePadded?_zero target source start, memory.copy?_zero target start⟩

-- a copy one place upwards does not meet the bytes it has written
example : (respond Memory.ask .empty
    [.resize 1, .storeSlice 0 [1, 2, 3, 4], .copy 1 0 3, .slice 0 4]).1 =
      [.ok .done, .ok .done, .ok .done, .ok (.bytes [1, 1, 2, 3])] := by
  decide +kernel

end Evm

end StateTransition
