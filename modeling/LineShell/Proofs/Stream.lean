/-
  LineShell.Proofs.Stream

  What an output stream has done, told from what was asked of it.

  `Sink.faults` lists the failures of all requests so far. It is computed from the device
  and the requests alone, so it does not depend on what became of an answer: a write whose
  failure was passed over still counts. The lemmas take an operation by its equation and
  say what it adds to this list and to the two views of the stream.
-/
import LineShell.Builtin

namespace LineShell

/-! ## Failed requests -/

/-- The failure that an answer reports, as a list. -/
def faultOf : Except IoError Unit → List IoError
  | .ok () => []
  | .error error => [error]

namespace Device

/-- The failure of a request, if it fails, given the earlier ones. -/
def fault? (device : Device) (earlier : List Request) : Request → Option IoError
  | .write bytes => (device.onWrite earlier bytes).map Prod.snd
  | .flush => device.onFlush earlier

/-- The failures of some requests, which like the requests stand latest first. -/
def faults (device : Device) : List Request → List IoError
  | [] => []
  | request :: earlier =>
    (device.fault? earlier request).toList ++ device.faults earlier

/-- Whether no write ever fails. -/
def AlwaysWrites (device : Device) : Prop :=
  ∀ earlier bytes, device.onWrite earlier bytes = none

theorem alwaysWrites_reliable : reliable.AlwaysWrites := fun _ _ => rfl

/-- Whether nothing that is asked of a stream ever fails. -/
structure Works (device : Device) : Prop where
  alwaysWrites : device.AlwaysWrites
  alwaysFlushes : ∀ earlier, device.onFlush earlier = none

theorem works_reliable : reliable.Works := ⟨alwaysWrites_reliable, fun _ => rfl⟩

end Device

namespace Sink

/-- The failures of all requests so far, the latest first. -/
def faults (sink : Sink) : List IoError := sink.device.faults sink.earlier

@[simp] theorem own_receive (sink : Sink) (bytes : Bytes) :
    (sink.receive bytes).own = sink.own := by
  rw [receive, own_add, Chunk.byShell, List.append_nil]

/-- A request adds its failure to the faults. -/
theorem faults_ask (sink : Sink) (request : Request) :
    (sink.ask request).faults
      = (sink.device.fault? sink.earlier request).toList ++ sink.faults := rfl

/-! ## One request -/

section
variable {sink next : Sink} {bytes : Bytes} {pieces : List Bytes}
  {answer : Except IoError Unit}

/-- What a write comes to: without bytes nothing is asked of the stream; otherwise all of them
    come through, or the write fails behind the first of them. -/
inductive Writes (sink : Sink) (bytes : Bytes) : Except IoError Unit → Sink → Prop where
  | nothing (empty : bytes = []) : Writes sink bytes (.ok ()) sink
  | all (nonempty : bytes ≠ []) (accepted : sink.device.onWrite sink.earlier bytes = none) :
      Writes sink bytes (.ok ()) ((sink.ask (.write bytes)).add (.own bytes))
  | part {count : Nat} {error : IoError} (nonempty : bytes ≠ [])
      (failed : sink.device.onWrite sink.earlier bytes = some (count, error)) :
      Writes sink bytes (.error error)
        ((sink.ask (.write bytes)).add (.own (bytes.take count)))

/-- The three rules describe every write. -/
theorem writes_of_write (h : sink.write bytes = (answer, next)) :
    Writes sink bytes answer next := by
  unfold write at h
  by_cases hb : bytes = []
  · rw [if_pos hb] at h
    cases h
    exact .nothing hb
  · rw [if_neg hb] at h
    cases hw : sink.device.onWrite sink.earlier bytes with
    | none =>
      rw [hw] at h
      cases h
      exact .all hb hw
    | some failed =>
      rw [hw] at h
      cases h
      exact .part hb hw

theorem faults_of_write (h : sink.write bytes = (answer, next)) :
    next.faults = faultOf answer ++ sink.faults := by
  cases writes_of_write h with
  | nothing empty => rfl
  | all nonempty accepted =>
    show (sink.ask (.write bytes)).faults = _
    rw [faults_ask, Device.fault?, accepted]
    rfl
  | part nonempty failed =>
    show (sink.ask (.write bytes)).faults = _
    rw [faults_ask, Device.fault?, failed]
    rfl

theorem device_of_write (h : sink.write bytes = (answer, next)) :
    next.device = sink.device := by
  cases writes_of_write h <;> rfl

/-- A flush is asked of the stream, and its answer is that of the device. -/
theorem ask_of_flush (h : sink.flush = (answer, next)) :
    next = sink.ask .flush ∧ faultOf answer = (sink.device.onFlush sink.earlier).toList := by
  unfold flush at h
  cases hf : sink.device.onFlush sink.earlier with
  | none =>
    rw [hf] at h
    cases h
    exact ⟨rfl, rfl⟩
  | some failed =>
    rw [hf] at h
    cases h
    exact ⟨rfl, rfl⟩

theorem faults_of_flush (h : sink.flush = (answer, next)) :
    next.faults = faultOf answer ++ sink.faults := by
  obtain ⟨rfl, hfault⟩ := ask_of_flush h
  rw [faults_ask, Device.fault?, hfault]

theorem device_of_flush (h : sink.flush = (answer, next)) : next.device = sink.device := by
  rw [(ask_of_flush h).1]
  rfl

/-- A flush lets no bytes through, and where flushes never fail it succeeds. -/
theorem flush_of_works (hd : sink.device.Works) (h : sink.flush = (answer, next)) :
    answer = .ok () ∧ next.shown = sink.shown ∧ next.device = sink.device := by
  rw [flush, hd.alwaysFlushes] at h
  cases h
  exact ⟨rfl, rfl, rfl⟩

/-- A write that succeeds lets all bytes through. -/
theorem write_of_ok (h : sink.write bytes = (.ok (), next)) :
    next.own = sink.own ++ bytes ∧ next.shown = sink.shown ++ bytes := by
  cases writes_of_write h with
  | nothing empty =>
    rw [empty, List.append_nil, List.append_nil]
    exact ⟨rfl, rfl⟩
  | all nonempty accepted => exact ⟨own_add .., shown_add ..⟩

/-- If writes never fail, all bytes come through. -/
theorem write_of_alwaysWrites (hd : sink.device.AlwaysWrites)
    (h : sink.write bytes = (answer, next)) :
    answer = .ok () ∧ next.own = sink.own ++ bytes ∧ next.shown = sink.shown ++ bytes := by
  have hok : answer = .ok () := by
    cases writes_of_write h with
    | nothing empty => rfl
    | all nonempty accepted => rfl
    | part nonempty failed =>
      rw [hd] at failed
      cases failed
  subst hok
  exact ⟨rfl, write_of_ok h⟩

/-! ## Several writes -/

/-- Writing a first piece and then the others. -/
theorem writeAll_cons (sink : Sink) (piece : Bytes) (pieces : List Bytes) :
    sink.writeAll (piece :: pieces)
      = match sink.write piece with
        | (.ok (), next) => next.writeAll pieces
        | (.error error, next) => (.error error, next) := rfl

/-- What every write preserves, the writing of several pieces preserves, whether it comes to
    its end or not. -/
theorem writeAll_preserves (holds : Sink → Prop)
    (hstep : ∀ {sink piece answer next}, sink.write piece = (answer, next) →
      holds sink → holds next)
    (h : sink.writeAll pieces = (answer, next)) (hsink : holds sink) : holds next := by
  induction pieces generalizing sink with
  | nil =>
    cases h
    exact hsink
  | cons piece pieces ih =>
    rcases hw : sink.write piece with ⟨first, middle⟩
    rw [writeAll_cons, hw] at h
    have hmiddle := hstep hw hsink
    cases first with
    | error error =>
      -- The pieces behind a failure are not written.
      cases h
      exact hmiddle
    | ok => exact ih h hmiddle

theorem faults_of_writeAll (h : sink.writeAll pieces = (answer, next)) :
    next.faults = faultOf answer ++ sink.faults := by
  induction pieces generalizing sink with
  | nil =>
    cases h
    rfl
  | cons piece pieces ih =>
    rcases hw : sink.write piece with ⟨first, middle⟩
    rw [writeAll_cons, hw] at h
    have hf := faults_of_write hw
    cases first with
    | error error =>
      cases h
      exact hf
    | ok =>
      -- A piece that came through leaves no fault, so the answer is that of the others.
      rw [ih h, hf]
      rfl

theorem device_of_writeAll (h : sink.writeAll pieces = (answer, next)) :
    next.device = sink.device :=
  writeAll_preserves (fun later => later.device = sink.device)
    (fun hw hsame => (device_of_write hw).trans hsame) h rfl

/-- Writes that succeed let all pieces through in order. -/
theorem writeAll_of_ok (h : sink.writeAll pieces = (.ok (), next)) :
    next.own = sink.own ++ pieces.flatten ∧ next.shown = sink.shown ++ pieces.flatten := by
  induction pieces generalizing sink with
  | nil =>
    cases h
    simp
  | cons piece pieces ih =>
    rcases hw : sink.write piece with ⟨first, middle⟩
    rw [writeAll_cons, hw] at h
    cases first with
    | error error => cases h
    | ok =>
      obtain ⟨hown, hshown⟩ := write_of_ok hw
      obtain ⟨iown, ishown⟩ := ih h
      refine ⟨?_, ?_⟩
      · rw [iown, hown, List.flatten_cons, List.append_assoc]
      · rw [ishown, hshown, List.flatten_cons, List.append_assoc]

/-- If writes never fail, all pieces come through. -/
theorem writeAll_of_alwaysWrites (hd : sink.device.AlwaysWrites)
    (h : sink.writeAll pieces = (answer, next)) :
    answer = .ok () ∧ next.own = sink.own ++ pieces.flatten
      ∧ next.shown = sink.shown ++ pieces.flatten := by
  have hok : answer = .ok () := by
    induction pieces generalizing sink with
    | nil =>
      cases h
      rfl
    | cons piece pieces ih =>
      rcases hw : sink.write piece with ⟨first, middle⟩
      rw [writeAll_cons, hw, (write_of_alwaysWrites hd hw).1] at h
      -- The device is the same after a write, so the others come through too.
      have hmiddle : middle.device.AlwaysWrites := by
        rw [device_of_write hw]
        exact hd
      exact ih hmiddle h
  subst hok
  exact ⟨rfl, writeAll_of_ok h⟩

end
end Sink

/-! ## Actions -/

namespace Action

/-- What every write and every flush of a stream preserves, an action preserves. -/
theorem perform_preserves (holds : Sink → Prop)
    (hwrite : ∀ {sink bytes answer next}, Sink.write sink bytes = (answer, next) →
      holds sink → holds next)
    (hflush : ∀ {sink answer next}, Sink.flush sink = (answer, next) → holds sink → holds next)
    (action : Action) {out : Sink} (hout : holds out) : holds (action.perform out).out := by
  -- On the tree of the action: each answer leads to one of the actions behind it.
  induction action generalizing out with
  | done result env => exact hout
  | write bytes next ih =>
    rcases hw : out.write bytes with ⟨answer, later⟩
    rw [perform, hw]
    exact ih answer (hwrite hw hout)
  | flush next ih =>
    rcases hf : out.flush with ⟨answer, later⟩
    rw [perform, hf]
    exact ih answer (hflush hf hout)

/-! ## Actions that print -/

/-- What an action comes to that prints and then succeeds, once it has written. -/
def printed (env : Environment) (status : Status) : Except IoError Unit × Sink → Outcome
  | (.ok (), out) => ⟨.ok status, env, out⟩
  | (.error error, out) => ⟨.error (.io error), env, out⟩

/-- The action writes its pieces one after the other and goes on behind the last, or ends at
    the first failure. -/
theorem perform_print_next (env : Environment) (pieces : List Bytes) (next : Action)
    (out : Sink) :
    (print env pieces next).perform out
      = match out.writeAll pieces with
        | (.ok (), later) => next.perform later
        | (.error error, later) => ⟨.error (.io error), env, later⟩ := by
  induction pieces generalizing out with
  | nil => rfl
  | cons piece pieces ih =>
    -- The tree of the action and the list of pieces branch at the same answer.
    rw [print, perform, Sink.writeAll_cons]
    obtain ⟨answer, later⟩ := out.write piece
    cases answer with
    | error error => rfl
    | ok => exact ih later

/-- Where nothing follows the pieces, writing them is all. -/
theorem perform_print (env : Environment) (pieces : List Bytes) (status : Status)
    (out : Sink) :
    (print env pieces (succeed env status)).perform out
      = printed env status (out.writeAll pieces) := by
  rw [perform_print_next]
  rcases out.writeAll pieces with ⟨_ | _, later⟩ <;> rfl

/-- It leaves the environment as it is. -/
theorem env_printed (env : Environment) (status : Status)
    (written : Except IoError Unit × Sink) : (printed env status written).env = env := by
  rcases written with ⟨_ | _, out⟩ <;> rfl

/-- It asks nothing of the stream that fails, or it comes to that failure. -/
theorem faults_printed (env : Environment) (status : Status) (out : Sink)
    (pieces : List Bytes) :
    (printed env status (out.writeAll pieces)).out.faults = out.faults
      ∨ ∃ error later,
          printed env status (out.writeAll pieces) = ⟨.error (.io error), env, later⟩
            ∧ later.faults = error :: out.faults := by
  rcases hw : out.writeAll pieces with ⟨error | _, later⟩
  · exact .inr ⟨error, later, rfl, Sink.faults_of_writeAll hw⟩
  · exact .inl (Sink.faults_of_writeAll hw)

/-- Only a write can make it fail. -/
theorem error_of_printed {env : Environment} {status : Status}
    {written : Except IoError Unit × Sink} {failure : Failure}
    (h : (printed env status written).result = .error failure) :
    ∃ error, failure = .io error := by
  rcases written with ⟨error | _, out⟩ <;> cases h
  exact ⟨error, rfl⟩

end Action
end LineShell
