import StoreMeter.Storage.Memory
/-
# Proofs.Contents — what is in an object that was written in blocks

A writer takes all its blocks from the start of one payload, so its object holds the payload over
and over, up to its size (`Repeats`).  Blocks are whole until the last one; this is why the next
block starts where the payload starts again.
-/
namespace StoreMeter

/-- So many bytes of a payload that is repeated. -/
structure Repeats (payload data : ByteArray) (size : Nat) : Prop where
  count : data.size = size
  byte : ∀ i, i < size → data.data[i]? = payload.data[i % payload.size]?

theorem repeats_empty (payload : ByteArray) : Repeats payload .empty 0 where
  count := rfl
  byte := by
    intro i told
    cases told

/-- The size leaves no choice of the bytes. -/
theorem Repeats.unique {payload data data' : ByteArray} {size : Nat}
    (h : Repeats payload data size) (h' : Repeats payload data' size) : data = data' := by
  have count : data.data.size = size := h.count
  have count' : data'.data.size = size := h'.count
  refine ByteArray.ext (Array.ext_getElem? fun i => ?_)
  by_cases below : i < size
  · rw [h.byte i below, h'.byte i below]
  · rw [Array.getElem?_eq_none (by omega), Array.getElem?_eq_none (by omega)]

/-- One more block, behind whole ones. -/
theorem Repeats.append {payload data : ByteArray} {size more : Nat} (h : Repeats payload data size)
    (whole : size % payload.size = 0) (fits : more ≤ payload.size) :
    Repeats payload (data ++ payload.extract 0 more) (size + more) where
  count := by
    rw [ByteArray.size_append, ByteArray.size_extract, h.count]
    omega
  byte := by
    intro i below
    have length : data.data.size = size := h.count
    rw [ByteArray.data_append]
    by_cases old : i < size
    · rw [Array.getElem?_append_left (length ▸ old)]
      exact h.byte i old
    -- behind whole blocks the payload starts again
    · obtain ⟨k, rfl⟩ := Nat.exists_eq_add_of_le (Nat.le_of_not_lt old)
      have place : (size + k) % payload.size = k := by
        rw [Nat.add_mod, whole, Nat.zero_add, Nat.mod_mod, Nat.mod_eq_of_lt (by omega)]
      rw [Array.getElem?_append_right (by omega), length, Nat.add_sub_cancel_left, place,
        ByteArray.data_extract, Array.getElem?_extract, Nat.zero_add]
      have room : payload.data.size = payload.size := rfl
      rw [if_pos (by omega)]

namespace Storage
namespace Memory

/-! ## Streams that are filled in order -/

/-- A stream that publishes to a path and holds so many bytes of a payload, all of them written in
order. -/
structure Stream.Filled (path : String) (payload : ByteArray) (size : Nat) (stream : Stream) :
    Prop where
  target : stream.target = some path
  unclosed : stream.closed = false
  position : stream.position = stream.data.size
  holds : Repeats payload stream.data size

theorem Stream.Filled.write {path : String} {payload : ByteArray} {size more : Nat} {stream : Stream}
    (h : stream.Filled path payload size) (whole : size % payload.size = 0)
    (fits : more ≤ payload.size) :
    (stream.overwrite (payload.extract 0 more)).Filled path payload (size + more) := by
  unfold overwrite
  dsimp only
  rw [if_pos h.position]
  refine ⟨h.target, h.unclosed, ?_, h.holds.append whole fits⟩
  rw [ByteArray.size_append, h.position]

theorem answer_write {stream : Stream} (unclosed : stream.closed = false) (data : ByteArray)
    (store : Store) :
    answer (.write stream data) store = ((stream.overwrite data, .ok data.size), store) := by
  simp only [answer, if_neg (ne_true_of_eq_false unclosed)]
  rfl

theorem answer_flush {stream : Stream} (unclosed : stream.closed = false) (store : Store) :
    answer (.flush stream) store = ((stream, .ok ()), stream.publish store) := by
  simp only [answer, if_neg (ne_true_of_eq_false unclosed)]
  rfl

theorem answer_close {stream : Stream} (unclosed : stream.closed = false) (store : Store) :
    answer (.close stream) store =
      (({ stream with closed := true }, .ok ()), stream.publish store) := by
  simp only [answer, if_neg (ne_true_of_eq_false unclosed)]
  rfl

theorem Stream.Filled.publish {path : String} {payload : ByteArray} {size : Nat} {stream : Stream}
    (h : stream.Filled path payload size) (store : Store) :
    (stream.publish store).get? path = some stream.data := by
  rw [Stream.publish, h.target]
  exact (Store.get?_put store path path stream.data).trans (if_pos rfl)

/-! ## Streams that are read in order -/

/-- A stream for reading, with its data and how much of it was read. -/
structure Stream.Reads (data : ByteArray) (count : Nat) (stream : Stream) : Prop where
  target : stream.target = none
  unclosed : stream.closed = false
  content : stream.data = data
  position : stream.position = count
  most : count ≤ data.size

/-- A read gets as many bytes as it asks for, or what is left of them. -/
theorem Stream.Reads.read {data : ByteArray} {count : Nat} {stream : Stream}
    (h : stream.Reads data count) {size : Int} (positive : 0 < size) (fits : size ≤ greatestSize)
    (store : Store) :
    ∃ stream' : Stream, ∃ block : ByteArray, block.size = min size.toNat (data.size - count) ∧
      stream'.Reads data (count + block.size) ∧
      answer (.read stream (some size)) store = ((stream', .ok block), store) := by
  have sized : checkSize (some size) = .ok () := by
    have within : isSize size = true := by
      rw [isSize, Bool.and_eq_true, decide_eq_true_eq, decide_eq_true_eq]
      refine ⟨?_, fits⟩
      unfold greatestSize
      omega
    rw [checkSize, if_pos within]
  have stop : stream.readEnd (some size) = min data.size (count + size.toNat) := by
    rw [Stream.readEnd, if_neg (by omega), h.content, h.position]
  have most := h.most
  have length : (stream.data.extract count (stream.readEnd (some size))).size =
      min size.toNat (data.size - count) := by
    rw [ByteArray.size_extract, h.content, stop]
    omega
  refine ⟨{ stream with position := stream.readEnd (some size) },
    stream.data.extract count (stream.readEnd (some size)), length, ?_, ?_⟩
  · rw [length]
    refine ⟨h.target, h.unclosed, h.content, ?_, by omega⟩
    show stream.readEnd (some size) = _
    omega
  · simp only [answer, sized, if_neg (ne_true_of_eq_false h.unclosed), h.position]
    rfl

/-- A read of a size beyond the range of sizes is refused. -/
theorem Stream.read_beyond {stream : Stream} {size : Int} (beyond : greatestSize < size)
    (store : Store) :
    answer (.read stream (some size)) store = ((stream, .error .sizeBeyondIndexes), store) := by
  have refused : checkSize (some size) = .error .sizeBeyondIndexes := by
    have outside : isSize size ≠ true := by
      rw [isSize, Ne, Bool.and_eq_true, decide_eq_true_eq, decide_eq_true_eq]
      omega
    rw [checkSize, if_neg outside]
  simp only [answer, refused]
  rfl

end Memory
end Storage
end StoreMeter
