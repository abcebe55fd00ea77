import Karpacz.Server.LoggingLoop

/-!
# What the log files receive

`LoopInv` is what every reachable state of the logging loop satisfies, whatever order the
writer tasks and the flush task take the locks in:

- each sink has received exactly the bytes its writes took, in lock order, and only
  writes of records of its own kind;
- every message the loop received is written once or still waiting in its task;
- each write took the whole record when the record is shorter than the buffer's
  capacity, and its first `chunk` bytes otherwise.

`step_inv` proves one step keeps it and `run_inv` a whole run. So no record is lost,
duplicated, interleaved with another or sent to the other sink; but a record of
`chunk` bytes or more loses its tail, and `loggingLoop_truncates` is such a run with
tokio's 2 MiB chunk.
-/

namespace Karpacz.Proof

open Karpacz LoggingLoop

/-! ## One sink -/

theorem take_min_length {α : Type} (l : List α) (n : Nat) : l.take (min l.length n) = l.take n := by
  rcases Nat.le_total l.length n with h | h
  · rw [Nat.min_eq_left h, List.take_length, List.take_of_length_le h]
  · rw [Nat.min_eq_right h]

theorem flushBuf_output (s : SinkFile) : s.flushBuf.output = s.output := by
  simp [SinkFile.flushBuf, SinkFile.output]

/-- A write adds the bytes it took to what the sink has received. -/
theorem write_output (chunk : Nat) (s : SinkFile) (data : List UInt8) :
    (s.write chunk data).1.output = s.output ++ data.take (s.write chunk data).2 := by
  unfold SinkFile.write
  by_cases hflush : s.buffer.length + data.length > logBufferCapacity
  · simp only [hflush, if_true, SinkFile.flushBuf]
    split
    · simp [SinkFile.output, take_min_length]
    · simp [SinkFile.output]
  · simp only [hflush, if_false]
    split
    · have hnil : s.buffer = [] := List.eq_nil_of_length_eq_zero (by omega)
      simp [SinkFile.output, hnil, take_min_length]
    · simp [SinkFile.output]

/-- What a write takes: the whole record below the capacity, its first `chunk` bytes
from the capacity on. -/
theorem take_write (chunk : Nat) (s : SinkFile) (data : List UInt8) :
    data.take (s.write chunk data).2 =
      if logBufferCapacity ≤ data.length then data.take chunk else data := by
  unfold SinkFile.write
  split <;> split <;> simp_all [take_min_length]

/-! ## The loop -/

/-- The bytes the writes of one kind took, in lock order. -/
def takenOf (written : List (LogMessage × List UInt8 × List UInt8)) (isError : Bool) : List UInt8 :=
  (written.filter fun w => w.1.isError = isError).flatMap fun w => w.2.2

/-- The invariant of the logging loop, relative to the state it started in. -/
structure LoopInv (chunk : Nat) (init st : LoggingLoop) : Prop where
  sinks : ∀ isError, (st.sinkFor isError).map SinkFile.output =
    (init.sinkFor isError).map fun s => s.output ++ takenOf st.written isError
  received : (init.received ++ st.received).Perm (init.received ++ st.written.map Prod.fst ++ st.spawned)
  routed : ∀ m ∈ st.spawned, (st.sinkFor m.isError).isSome
  taken : ∀ w ∈ st.written, ∃ now, w.2.1 = recordBytes now w.1 ∧
    w.2.2 = if logBufferCapacity ≤ w.2.1.length then w.2.1.take chunk else w.2.1

@[simp] theorem sinkFor_setSink (st : LoggingLoop) (isError b : Bool) (sink : SinkFile) :
    (st.setSink isError sink).sinkFor b = if b = isError then some sink else st.sinkFor b := by
  cases isError <;> cases b <;> rfl

@[simp] theorem setSink_spawned (st : LoggingLoop) (isError : Bool) (sink : SinkFile) :
    (st.setSink isError sink).spawned = st.spawned := by
  cases isError <;> rfl

@[simp] theorem setSink_received (st : LoggingLoop) (isError : Bool) (sink : SinkFile) :
    (st.setSink isError sink).received = st.received := by
  cases isError <;> rfl

@[simp] theorem setSink_written (st : LoggingLoop) (isError : Bool) (sink : SinkFile) :
    (st.setSink isError sink).written = st.written := by
  cases isError <;> rfl

theorem perm_cons_eraseIdx {α : Type} : ∀ {l : List α} {i : Nat} {a : α}, l[i]? = some a →
    l.Perm (a :: l.eraseIdx i)
  | [], _, _, h => by simp at h
  | b :: l, 0, a, h => by simp only [List.getElem?_cons_zero, Option.some.injEq] at h; subst h; rfl
  | b :: l, i + 1, a, h => by
    rw [List.getElem?_cons_succ] at h
    exact ((perm_cons_eraseIdx h).cons b).trans (List.Perm.swap a b _)

theorem takenOf_append_self (written : List (LogMessage × List UInt8 × List UInt8))
    (w : LogMessage × List UInt8 × List UInt8) :
    takenOf (written ++ [w]) w.1.isError = takenOf written w.1.isError ++ w.2.2 := by
  simp [takenOf, List.filter_append]

theorem takenOf_append_of_ne (written : List (LogMessage × List UInt8 × List UInt8))
    (w : LogMessage × List UInt8 × List UInt8) {b : Bool} (hb : b ≠ w.1.isError) :
    takenOf (written ++ [w]) b = takenOf written b := by
  simp [takenOf, List.filter_append, Ne.symm hb]

section
variable {chunk : Nat} {init : LoggingLoop}

theorem LoopInv.receive {st : LoggingLoop} (hinv : LoopInv chunk init st) (message : LogMessage) :
    LoopInv chunk init (st.step chunk (.receive message)) := by
  by_cases hopen : (st.sinkFor message.isError).isSome = true
  · simp only [step, hopen, if_true]
    refine ⟨hinv.sinks, ?_, ?_, hinv.taken⟩
    · simpa [← List.append_assoc] using hinv.received.append_right [message]
    · intro m hm
      rcases List.mem_append.mp hm with hm | hm
      · exact hinv.routed m hm
      · rw [List.mem_singleton.mp hm]; exact hopen
  · simp only [step, hopen, Bool.false_eq_true, if_false]
    exact hinv

theorem LoopInv.write {st : LoggingLoop} (hinv : LoopInv chunk init st) (task : Nat) (now : LocalTime) :
    LoopInv chunk init (st.step chunk (.write task now)) := by
  cases hm : st.spawned[task]? with
  | none => simp only [step, hm]; exact hinv
  | some message =>
    cases hs : st.sinkFor message.isError with
    | none => simp only [step, hm, hs]; exact hinv
    | some sink =>
      simp only [step, hm, hs]
      refine ⟨fun b => ?_, ?_, ?_, ?_⟩ <;>
        simp only [sinkFor_setSink, setSink_spawned, setSink_received, setSink_written]
      · by_cases hb : b = message.isError
        · subst hb
          have h := hinv.sinks message.isError
          rw [hs, Option.map_some', eq_comm, Option.map_eq_some'] at h
          obtain ⟨s₀, hs₀, hout⟩ := h
          rw [if_pos rfl, Option.map_some', write_output, takenOf_append_self, hs₀, Option.map_some', ← hout,
            List.append_assoc]
        · simp only [hb, if_false]
          rw [takenOf_append_of_ne _ _ hb]
          exact hinv.sinks b
      · refine hinv.received.trans ?_
        simp only [List.map_append, List.map_singleton, List.append_assoc]
        exact List.Perm.append_left _ (List.Perm.append_left _ (perm_cons_eraseIdx hm))
      · intro m hm'
        split
        · rfl
        · exact hinv.routed m (List.mem_of_mem_eraseIdx hm')
      · intro w hw
        rcases List.mem_append.mp hw with hw | hw
        · exact hinv.taken w hw
        · rw [List.mem_singleton.mp hw]
          exact ⟨now, rfl, take_write chunk sink _⟩

theorem LoopInv.flush {st : LoggingLoop} (hinv : LoopInv chunk init st) (isError : Bool) :
    LoopInv chunk init (st.step chunk (.flush isError)) := by
  cases hs : st.sinkFor isError with
  | none => simp only [step, hs]; exact hinv
  | some sink =>
    simp only [step, hs]
    refine ⟨fun b => ?_, by simpa using hinv.received, fun m hm => ?_, by simpa using hinv.taken⟩
    · simp only [sinkFor_setSink, setSink_written]
      split
      · subst b
        simpa [hs, flushBuf_output] using hinv.sinks isError
      · exact hinv.sinks b
    · rw [setSink_spawned] at hm
      simp only [sinkFor_setSink]
      split
      · rfl
      · exact hinv.routed m hm

/-- **One step keeps the invariant.** -/
theorem step_inv {st : LoggingLoop} (hinv : LoopInv chunk init st) :
    ∀ event, LoopInv chunk init (st.step chunk event)
  | .receive message => hinv.receive message
  | .write task now => hinv.write task now
  | .flush isError => hinv.flush isError

/-- **A whole run keeps the invariant.** -/
theorem run_inv : ∀ {st : LoggingLoop} (events : List LoggingEvent), LoopInv chunk init st →
    LoopInv chunk init (run chunk st events)
  | _, [], hinv => hinv
  | _, event :: events, hinv => run_inv events (step_inv hinv event)

end

theorem loopInv_start (chunk : Nat) (logOpen errorLogOpen : Bool) :
    LoopInv chunk (start logOpen errorLogOpen) (start logOpen errorLogOpen) := by
  refine ⟨fun b => ?_, (by simp [start]), fun _ h => (nomatch h), fun _ h => (nomatch h)⟩
  cases b <;> simp only [start, sinkFor, takenOf] <;> split <;> simp

/-- **No record is lost, duplicated, interleaved or misrouted, in any interleaving.** From
the loop `start_server` starts, after any sequence of received messages, writer tasks
taking their sink's lock in any order and flushes: each sink that was opened holds
exactly the bytes its writes took, in lock order, and only writes of records of its own
kind; every message received for an open sink has been written exactly once or is still
waiting in its task; and each write took its whole record when the record is shorter
than the buffer's capacity, and its first `chunk` bytes otherwise. -/
theorem loggingLoop_records (chunk : Nat) (logOpen errorLogOpen : Bool) (events : List LoggingEvent) :
    let st := run chunk (start logOpen errorLogOpen) events
    (∀ isError, (st.sinkFor isError).map SinkFile.output =
      ((start logOpen errorLogOpen).sinkFor isError).map fun _ => takenOf st.written isError) ∧
    st.received.Perm (st.written.map Prod.fst ++ st.spawned) ∧
    ∀ w ∈ st.written, ∃ now, w.2.1 = recordBytes now w.1 ∧
      w.2.2 = if logBufferCapacity ≤ w.2.1.length then w.2.1.take chunk else w.2.1 := by
  have hinv := run_inv events (loopInv_start chunk logOpen errorLogOpen)
  refine ⟨fun isError => ?_, by simpa [start] using hinv.received, hinv.taken⟩
  rw [hinv.sinks isError]
  cases isError <;> simp only [start, sinkFor] <;> split <;> simp [SinkFile.output]

/-! ## A record longer than the file's chunk -/

/-- A single record of at least the capacity and longer than the chunk: the sink takes its
first `chunk` bytes. -/
theorem loggingLoop_long_record (chunk : Nat) (message : LogMessage) (now : LocalTime)
    (hcap : logBufferCapacity ≤ (recordBytes now message).length) :
    ((run chunk (start true true) [.receive message, .write 0 now]).sinkFor message.isError).map
      SinkFile.output = some ((recordBytes now message).take chunk) := by
  have hinv := run_inv [.receive message, .write 0 now] (loopInv_start chunk true true)
  rw [hinv.sinks message.isError]
  have hopen : (start true true).sinkFor message.isError = some ⟨[], []⟩ := by
    cases message.isError <;> rfl
  have hwritten : (run chunk (start true true) [.receive message, .write 0 now]).written =
      [(message, recordBytes now message, (recordBytes now message).take
        ((SinkFile.write chunk ⟨[], []⟩ (recordBytes now message)).2))] := by
    simp [run, step, start, sinkFor, hopen]
  rw [hopen, hwritten, take_write, if_pos hcap]
  simp [takenOf, SinkFile.output]

theorem length_recordBytes_ascii (now : LocalTime) (n : Nat) :
    (recordBytes now ⟨⟨List.replicate n 'a'⟩, false⟩).length = n + 1 := by
  have ha : 'a'.utf8Size = 1 := rfl
  have hn : '\n'.utf8Size = 1 := rfl
  have h : ∀ k : Nat, ((List.replicate k 'a').flatMap String.utf8EncodeChar).length = k := by
    intro k
    induction k with
    | zero => rfl
    | succ k ih => simp [List.replicate_succ, ih, ha, Nat.add_comm]
  simp [recordBytes, recordText, String.data_append, h, hn]

/-- With tokio's 2 MiB chunk, an access record of 2 MiB and a line break reaches the log
without its line break. -/
theorem loggingLoop_truncates :
    ((run (2 * 1024 * 1024) (start true true)
        [.receive ⟨⟨List.replicate (2 * 1024 * 1024) 'a'⟩, false⟩, .write 0 ⟨2026, 10, 9, 12, 0, 0, 0, false⟩]).sinkFor
        false).map SinkFile.output =
      some ((recordBytes ⟨2026, 10, 9, 12, 0, 0, 0, false⟩ ⟨⟨List.replicate (2 * 1024 * 1024) 'a'⟩, false⟩).take
        (2 * 1024 * 1024)) ∧
    (recordBytes ⟨2026, 10, 9, 12, 0, 0, 0, false⟩ ⟨⟨List.replicate (2 * 1024 * 1024) 'a'⟩, false⟩).length =
      2 * 1024 * 1024 + 1 := by
  have hlen := length_recordBytes_ascii ⟨2026, 10, 9, 12, 0, 0, 0, false⟩ (2 * 1024 * 1024)
  refine ⟨loggingLoop_long_record _ _ _ ?_, hlen⟩
  rw [hlen]; decide

end Karpacz.Proof
