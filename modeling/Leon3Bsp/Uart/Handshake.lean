import Leon3Bsp.Lib.Conservation
import Leon3Bsp.Uart.Board
import Leon3Bsp.Uart.Primitives
import Leon3Bsp.Uart.Receive

/-!
# The handshake with the device

A write to the data register is lost if the transmitter still holds a byte, and
a read of it is void if the receiver holds none; the status register tells. The
driver has several places that send or take a byte, and callbacks that may call
it again; each comes right after the status register was read and allowed it.
-/

namespace Leon3Bsp.Uart
set_option autoImplicit false
open Wp Execution Conservation

variable {σ : Type}

/-- The status register was read with `DR` set. -/
def Event.showsDR : Event → Bool
  | .read .status value => getFlag value Status.DR
  | _ => false

/-- Each event `f` picks comes right after one that shows `shows`. -/
def RightAfter (shows : Event → Bool) (f : Event → Option Byte) (trace : List Event) : Prop :=
  ∀ before event after, trace = before ++ event :: after → (f event).isSome →
    ∃ earlier look, before = earlier ++ [look] ∧ shows look = true

/-- Bytes are sent right after `TS` was shown, and taken right after `DR` was. -/
structure Shaken (trace : List Event) : Prop where
  sent : RightAfter Event.showsTS Event.written trace
  taken : RightAfter Event.showsDR Event.taken trace

section RightAfter

variable {shows : Event → Bool} {f : Event → Option Byte} {trace trace' : List Event}

theorem RightAfter.of_none (none : trace.filterMap f = []) : RightAfter shows f trace := by
  rintro before event after rfl picked
  rw [List.filterMap_eq_nil_iff] at none
  rw [none event (by simp)] at picked
  cases picked

/-- One event, after what shows it. -/
theorem RightAfter.pair {look event : Event} (shown : shows look = true) (other : f look = none) :
    RightAfter shows f [look, event] := by
  intro before picked after split isSome
  match before with
  | [] =>
    cases split
    rw [other] at isSome
    cases isSome
  | [first] =>
    cases split
    exact ⟨[], look, rfl, shown⟩
  | first :: second :: rest => simp at split

theorem RightAfter.append (first : RightAfter shows f trace) (second : RightAfter shows f trace') :
    RightAfter shows f (trace ++ trace') := by
  intro before event after split picked
  rcases List.append_eq_append_iff.1 split with ⟨middle, rfl, inSecond⟩ | ⟨middle, rfl, inFirst⟩
  · obtain ⟨earlier, look, rfl, shown⟩ := second middle event after inSecond picked
    exact ⟨trace ++ earlier, look, (List.append_assoc _ _ _).symm, shown⟩
  · cases middle with
    | nil =>
      obtain ⟨earlier, look, absent, shown⟩ := second [] event after (by simpa using inFirst.symm) picked
      simp at absent
    | cons _ rest =>
      cases inFirst
      exact first before event rest rfl picked

end RightAfter

theorem Shaken.append {trace trace' : List Event} (first : Shaken trace) (second : Shaken trace') : Shaken (trace ++ trace') :=
  ⟨first.sent.append second.sent, first.taken.append second.taken⟩

/-- Nothing sent and nothing taken. -/
theorem Shaken.of_still {trace : List Event} (unwritten : dataWritten trace = []) (unread : dataRead trace = []) :
    Shaken trace :=
  ⟨.of_none unwritten, .of_none unread⟩

/-- What was observed since keeps the handshake. -/
def Shakes (w w' : World σ) : Prop :=
  ∃ segment, w'.trace = w.trace ++ segment ∧ Shaken segment

theorem Shakes.refl (w : World σ) : Shakes w w :=
  ⟨[], (List.append_nil _).symm, .of_still rfl rfl⟩

theorem Shakes.trans {w w' w'' : World σ} (first : Shakes w w') (second : Shakes w' w'') : Shakes w w'' := by
  obtain ⟨segment, trace, shaken⟩ := first
  obtain ⟨segment', trace', shaken'⟩ := second
  refine ⟨segment ++ segment', ?_, shaken.append shaken'⟩
  rw [trace', trace, List.append_assoc]

theorem Primitive.shakes {env : Env σ} {scope : Scope} {w w' : World σ} (primitive : Primitive env Shakes scope w w') :
    Shakes w w' := by
  cases primitive with
  | look other w =>
    rename_i r
    have silent := Silent.read other (w.value env r)
    exact ⟨_, rfl, .of_still silent.dataWritten silent.dataRead⟩
  | put other own value w =>
    rename_i r
    refine ⟨_, rfl, .of_still ?_ rfl⟩
    cases r with
    | data => exact absurd rfl other
    | status | control | clkscl => rfl
  | send ready fetched byte =>
    refine ⟨[.read .status (w.value env .status), .write .data (byte.setWidth 32)], ?_, .pair ready rfl, .of_none rfl⟩
    rw [World.afterWrite_trace, World.withStore_trace, World.afterRead_trace, List.append_assoc]
    rfl
  | take ready =>
    refine ⟨[.read .status (w.value env .status), .read .data ((w.afterRead env .status).value env .data)], ?_, .of_none rfl,
      .pair ready rfl⟩
    rw [World.afterRead_trace, World.afterRead_trace, List.append_assoc]
    rfl
  | assign assigns registers => exact .refl _
  | service own => exact .refl _
  | push member data =>
    unfold World.afterPush
    split
    · exact ⟨_, rfl, .of_still rfl rfl⟩
    · exact .refl w
  | pull member data w =>
    unfold World.afterPull
    split
    · exact ⟨_, rfl, .of_still rfl rfl⟩
    · exact .refl w
  | call registered returned =>
    refine Shakes.trans ⟨_, World.calling_trace _ _ _ _, .of_still rfl rfl⟩ returned

theorem shakes_exec {env : Env σ} (callbacks : Callbacks partially env Shakes) (call : Call) :
    Relates partially Shakes (exec env call) := by
  by_cases silent : ∀ byte, call ≠ .arrive byte
  · intro w
    apply wp_mono (driven_exec callbacks call.within_all silent w)
    intro _ w' driven
    induction driven with
    | refl => exact .refl w
    | tail earlier last ih => exact ih.trans last.shakes
  · push Not at silent
    obtain ⟨byte, rfl⟩ := silent
    exact fun w => .refl w

/-- **The handshake**: in every run of any calls, each of them whole, on any device
and with any callbacks that keep it too, such as those that call the driver again,
each byte that is sent is written right after the status register showed `TS`, and
each byte that is taken is read right after it showed `DR`. -/
theorem handshake {env : Env σ} (callbacks : Callbacks partially env Shakes) {allowed : World σ → Call → Prop}
    {start w : World σ} {calls : List (Made σ)} (run : Run env allowed start calls w) :
    ∃ segment, w.trace = start.trace ++ segment ∧ Shaken segment := by
  apply run.invariant (I := fun _ w => Shakes start w) (.refl start)
  intro _ w call answer w' earlier _ ran
  have step := wp_ended (shakes_exec callbacks call w) ran
  exact earlier.trans step

namespace Board

/-- The callbacks of the caller attach the first queue again. -/
def again : Env Board :=
  { env with callback := fun _ _ => do let _ ← exec env (.writeAsync (some 0) ⟨.user 0, 0⟩) }

theorem again_shakes : Callbacks partially again Shakes := by
  refine ⟨.refl, fun _ _ => ?_⟩
  have once : Callbacks partially env Shakes := ⟨.refl, fun _ _ => .refl⟩
  exact (shakes_exec once _).bind .trans fun _ => .refl

end Board

/-- On a board with callbacks that call the driver: the end of a transmission
attaches the queue again. -/
theorem handshake_again :
    let start := Board.world 2 ⟨3, [0, 0, 0, 2, 2], [65]⟩
    ∃ calls w, Run Board.again (fun _ _ => True) start calls w ∧
      calls.map Taken.input = [.push 0 7, .writeAsync (some 0) ⟨.user 0, 0⟩, .handleInterrupt, .read 0 1 .ok] ∧
      ∃ segment, w.trace = start.trace ++ segment ∧ Shaken segment := by
  obtain ⟨w, performed⟩ : ∃ w, perform (exec Board.again) [.push 0 7, .writeAsync (some 0) ⟨.user 0, 0⟩, .handleInterrupt,
      .read 0 1 .ok] (Board.world 2 ⟨3, [0, 0, 0, 2, 2], [65]⟩) = .ok (⟨⟩, w) := ⟨_, rfl⟩
  obtain ⟨calls, run, inputs⟩ := perform_run (fun _ _ _ => trivial) performed
  exact ⟨calls, w, run, inputs, handshake Board.again_shakes run⟩

/-- The part of the device that transmits: it sent `sent` and holds a byte at
most. `TS` shows that it holds none. While time passes the byte it holds goes
out. What becomes of a byte written when there is one already is left open. -/
structure Transmitter (device : Device σ) (sent : σ → List Byte) (holding : σ → Option Byte) : Prop where
  ready : ∀ s, getFlag (device.read .status s).1 Status.TS = true → holding (device.read .status s).2 = none
  data : ∀ value s, holding s = none → sent (device.write .data value s) ++ (holding (device.write .data value s)).toList =
    sent s ++ [value.setWidth 8]
  read : ∀ r s, sent (device.read r s).2 ++ (holding (device.read r s).2).toList = sent s ++ (holding s).toList
  written : ∀ {r}, r ≠ .data → ∀ value s, sent (device.write r value s) ++ (holding (device.write r value s)).toList =
    sent s ++ (holding s).toList
  arrive : ∀ byte s, sent (device.arrive byte s) ++ (holding (device.arrive byte s)).toList = sent s ++ (holding s).toList

/-- What the device sent or holds, and what it received, against the trace. -/
structure Exchanges (sent : σ → List Byte) (holding : σ → Option Byte) (held : σ → List Byte) (w w' : World σ)
    (entered : List Byte) (segment : List Event) : Prop where
  trace : w'.trace = w.trace ++ segment
  transmitter : Conserved (sent w.hw ++ (holding w.hw).toList) (dataWritten segment) [] (sent w'.hw ++ (holding w'.hw).toList)
  receiver : Conserved (held w.hw) entered (dataRead segment) (held w'.hw)

/-- Between two worlds of one call, in which nothing arrives. -/
def Exchanged (sent : σ → List Byte) (holding : σ → Option Byte) (held : σ → List Byte) (w w' : World σ) : Prop :=
  ∃ segment, Exchanges sent holding held w w' [] segment

section Exchanges

variable {env : Env σ} {sent : σ → List Byte} {holding : σ → Option Byte} {held : σ → List Byte} {w w' w'' : World σ}
variable {entered entered' : List Byte} {segment segment' : List Event}

theorem Exchanges.trans (first : Exchanges sent holding held w w' entered segment)
    (second : Exchanges sent holding held w' w'' entered' segment') :
    Exchanges sent holding held w w'' (entered ++ entered') (segment ++ segment') := by
  refine ⟨?_, ?_, ?_⟩
  · rw [second.trace, first.trace, List.append_assoc]
  · rw [dataWritten_append]
    exact first.transmitter.trans second.transmitter
  · rw [dataRead_append]
    exact first.receiver.trans second.receiver

/-- The device is left alone. -/
theorem Exchanges.of_hw (hw : w'.hw = w.hw) (trace : w'.trace = w.trace ++ segment) (unwritten : dataWritten segment = [])
    (unread : dataRead segment = []) : Exchanges sent holding held w w' [] segment := by
  refine ⟨trace, ?_, ?_⟩
  · rw [hw, unwritten]
    exact .refl _
  · rw [hw, unread]
    exact .refl _

theorem Exchanged.unmoved (hw : w'.hw = w.hw) (trace : w'.trace = w.trace) : Exchanged sent holding held w w' :=
  ⟨[], .of_hw hw (trace.trans (List.append_nil _).symm) rfl rfl⟩

theorem Exchanged.trans (first : Exchanged sent holding held w w') (second : Exchanged sent holding held w' w'') :
    Exchanged sent holding held w w'' := by
  obtain ⟨segment, exchanges⟩ := first
  obtain ⟨segment', exchanges'⟩ := second
  exact ⟨_, exchanges.trans exchanges'⟩

theorem Primitive.exchanged (transmitter : Transmitter env.device sent holding) (receiver : Receiver env.device held)
    {scope : Scope}
    (primitive : Primitive env (Exchanged sent holding held) scope w w') : Exchanged sent holding held w w' := by
  have looked {r : Register} (other : r ≠ .data) (w : World σ) :
      Exchanges sent holding held w (w.afterRead env r) [] [.read r (w.value env r)] := by
    have silent := Silent.read other (w.value env r)
    refine ⟨rfl, ?_, ?_⟩
    · rw [silent.dataWritten]
      exact .of_eq (transmitter.read r w.hw)
    · rw [silent.dataRead]
      exact .of_eq (receiver.other r w.hw other)
  cases primitive with
  | look other w => exact ⟨_, looked other w⟩
  | put other own value w =>
    rename_i r
    have unwritten : dataWritten [.write r value] = [] := by
      cases r with
      | data => exact absurd rfl other
      | status | control | clkscl => rfl
    refine ⟨_, rfl, ?_, .of_eq (receiver.written r value w.hw)⟩
    rw [unwritten]
    exact .of_eq (transmitter.written other value w.hw)
  | send ready fetched byte =>
    rename_i store
    -- the transmitter holds nothing after the look
    have free := transmitter.ready w.hw ready
    have writes : Exchanges sent holding held (w.afterRead env .status)
        (((w.afterRead env .status).withStore store).afterWrite env .data (byte.setWidth 32)) []
        [.write .data (byte.setWidth 32)] := by
      refine ⟨rfl, ?_, .of_eq (receiver.written .data _ _)⟩
      have goes := transmitter.data (byte.setWidth 32) (w.afterRead env .status).hw free
      rw [World.afterWrite_hw, World.withStore_hw, goes, World.afterRead_hw, free]
      exact congrArg (· ++ [(byte.setWidth 32).setWidth 8]) (List.append_nil _)
    exact ⟨_, (looked (by decide) w).trans writes⟩
  | take ready =>
    -- the receiver holds a byte after the look
    have takes := receiver.takes ready
    have kept := receiver.other .status w.hw (by decide)
    have reads : Exchanges sent holding held (w.afterRead env .status) ((w.afterRead env .status).afterRead env .data) []
        [.read .data ((w.afterRead env .status).value env .data)] := by
      refine ⟨rfl, .of_eq (transmitter.read .data _), ?_⟩
      rw [World.afterRead_hw, World.afterRead_hw, kept, takes]
      exact .leave _ _
    exact ⟨_, (looked (by decide) w).trans reads⟩
  | assign assigns registers => exact .unmoved rfl rfl
  | service own => exact .unmoved rfl rfl
  | push member data =>
    unfold World.afterPush
    split
    · exact ⟨_, .of_hw rfl rfl rfl rfl⟩
    · exact .unmoved rfl rfl
  | pull member data w =>
    unfold World.afterPull
    split
    · exact ⟨_, .of_hw rfl rfl rfl rfl⟩
    · exact .unmoved rfl rfl
  | call registered returned =>
    rename_i hook callback arg
    have called : Exchanged sent holding held w (w.calling hook callback arg) := ⟨_, .of_hw rfl rfl rfl rfl⟩
    exact called.trans returned

theorem exchanges_exec (transmitter : Transmitter env.device sent holding) (receiver : Receiver env.device held)
    (callbacks : Callbacks partially env (Exchanged sent holding held)) (call : Call) (w : World σ) :
    wp partially (exec env call)
      (fun _ w' => ∃ segment, Exchanges sent holding held w w' (arrived call) segment) w := by
  by_cases silent : ∀ byte, call ≠ .arrive byte
  · have none : arrived call = [] := by
      cases call with
      | arrive byte => exact absurd rfl (silent byte)
      | _ => rfl
    rw [none]
    apply wp_mono (driven_exec callbacks call.within_all silent w)
    intro _ w' driven
    change Exchanged sent holding held w w'
    induction driven with
    | refl => exact .unmoved rfl rfl
    | tail earlier last ih => exact ih.trans (last.exchanged transmitter receiver)
  · push Not at silent
    obtain ⟨byte, rfl⟩ := silent
    refine ⟨[], (List.append_nil _).symm, .of_eq (transmitter.arrive byte w.hw), ?_⟩
    rw [World.afterArrival, receiver.arrive]
    exact .enter _ _

end Exchanges

/-- A device with a transmitter of one byte, which goes out when the status is read. -/
structure Port where
  control : Word
  sent : List Byte
  holding : Option Byte
  received : List Byte

namespace Port

def read : Register → Port → Word × Port
  | .data, p => ((p.received.headD 0).setWidth 32, { p with received := p.received.tail })
  | .status, p => (withFlag (withFlag 0 p.holding.isNone Status.TS) (!p.received.isEmpty) Status.DR,
      { p with sent := p.sent ++ p.holding.toList, holding := none })
  | .control, p => (p.control, p)
  | .clkscl, p => (0, p)

def write : Register → Word → Port → Port
  | .data, value, p => { p with holding := some (value.setWidth 8) }
  | .control, value, p => { p with control := value }
  | _, _, p => p

def env : Env Port :=
  ⟨⟨read, write, fun byte p => { p with received := p.received ++ [byte] }⟩, fun _ _ => pure (), 80000000, 0⟩

theorem transmitter : Transmitter env.device Port.sent Port.holding where
  ready _ _ := rfl
  data value s free := by simp [env, write]
  read r s := by cases r <;> simp [env, read]
  written {r} other value s := by
    cases r with
    | data => exact absurd rfl other
    | status | control | clkscl => rfl
  arrive _ _ := rfl

theorem receiver : Receiver env.device Port.received where
  arrive _ _ := rfl
  ready s := by
    show getFlag (withFlag _ (!s.received.isEmpty) Status.DR) Status.DR = true ↔ _
    rw [getFlag_withFlag _ _ (by decide : Status.DR < 32) Status.DR]
    simp
  data s byte rest front := by simp [env, read, front]
  other r s other := by cases r <;> first | rfl | exact absurd rfl other
  written r value s := by cases r <;> rfl

end Port

end Leon3Bsp.Uart
