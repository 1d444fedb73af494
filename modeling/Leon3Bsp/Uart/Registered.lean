import Leon3Bsp.Lib.Assignments
import Leon3Bsp.Uart.Board
import Leon3Bsp.Uart.Primitives

/-!
# Which function a hook calls

`Uart_init` registers the empty callback for every hook, and the functions that
attach a queue or an error handler register those of the caller. What is called,
and with which argument, is a variable that these calls assign; all others leave
it alone, and only the interrupt calls it.
-/

namespace Leon3Bsp.Uart
set_option autoImplicit false
open Wp Execution

variable {σ : Type}

/-- The function and the argument that a call registers for a hook. -/
def Call.registers : Hook → Call → Option (Callback × Arg)
  | .txEnd, .init _ => some (defaultTxHandler.callback, defaultTxHandler.arg)
  | .rxCharacter, .init _ => some (defaultRxHandler.characterCallback, defaultRxHandler.characterArg)
  | .rxLength, .init _ => some (defaultRxHandler.lengthCallback, defaultRxHandler.lengthArg)
  | .error, .init _ => some (defaultErrorHandler.callback, defaultErrorHandler.arg)
  | .txEnd, .writeAsync _ handler => some (handler.callback, handler.arg)
  | .rxCharacter, .readAsync _ handler => some (handler.characterCallback, handler.characterArg)
  | .rxLength, .readAsync _ handler => some (handler.lengthCallback, handler.lengthArg)
  | .error, .registerErrorHandler handler => some (handler.callback, handler.arg)
  | _, _ => none

/-- The trace grew, and where `hook` was called in it, it was by a handler of the
interrupt and as registered. -/
def CalledOnly (hook : Hook) (handles : Prop) (registered : Callback × Arg) (w w' : World σ) : Prop :=
  ∃ segment, w'.trace = w.trace ++ segment ∧ ∀ callback arg uart store,
    .called hook callback arg uart store ∈ segment → handles ∧ (callback, arg) = registered

/-- Nothing was registered for `hook`, and it was called as registered. -/
structure CallsBack (hook : Hook) (handles : Prop) (w w' : World σ) : Prop where
  handler : handlerOf w'.uart hook = handlerOf w.uart hook
  called : CalledOnly hook handles (handlerOf w.uart hook) w w'

section CallsBack

variable {hook : Hook} {handles : Prop} {registered : Callback × Arg} {w w' w'' : World σ}

theorem CalledOnly.of_none {segment : List Event} (trace : w'.trace = w.trace ++ segment)
    (none : ∀ callback arg uart store, .called hook callback arg uart store ∉ segment) :
    CalledOnly hook handles registered w w' :=
  ⟨segment, trace, fun callback arg uart store member => absurd member (none callback arg uart store)⟩

theorem CalledOnly.trans (first : CalledOnly hook handles registered w w') (second : CalledOnly hook handles registered w' w'') :
    CalledOnly hook handles registered w w'' := by
  obtain ⟨segment, trace, called⟩ := first
  obtain ⟨segment', trace', called'⟩ := second
  refine ⟨segment ++ segment', ?_, fun callback arg uart store member => ?_⟩
  · rw [trace', trace, List.append_assoc]
  · rcases List.mem_append.1 member with before | later
    · exact called callback arg uart store before
    · exact called' callback arg uart store later

theorem CallsBack.of_none {segment : List Event} (handler : handlerOf w'.uart hook = handlerOf w.uart hook)
    (trace : w'.trace = w.trace ++ segment) (none : ∀ callback arg uart store, .called hook callback arg uart store ∉ segment) :
    CallsBack hook handles w w' :=
  ⟨handler, .of_none trace none⟩

theorem CallsBack.refl (w : World σ) : CallsBack hook handles w w :=
  .of_none rfl (List.append_nil _).symm fun _ _ _ _ => List.not_mem_nil

theorem CallsBack.trans (first : CallsBack hook handles w w') (second : CallsBack hook handles w' w'') :
    CallsBack hook handles w w'' := by
  refine ⟨second.handler.trans first.handler, first.called.trans ?_⟩
  rw [← first.handler]
  exact second.called

end CallsBack

section Driven

variable {env : Env σ} {E : World σ → World σ → Prop} {hook : Hook} {handles : Prop} {w w' : World σ}

/-- Nothing but `hook` may be registered for. -/
def Scope.besides (hook : Hook) : Scope :=
  ⟨Set.univ, Set.univ, Set.univ, Set.compl {hook}⟩

theorem Primitive.callsBack (returned : ∀ {w w'}, E w w' → handles ∧ CallsBack hook handles w w')
    (primitive : Primitive env E (.besides hook) w w') : CallsBack hook handles w w' := by
  cases primitive with
  | look other w => exact .of_none rfl rfl (by simp)
  | put other own value w => exact .of_none rfl rfl (by simp)
  | send ready fetched byte =>
    rename_i store
    have trace : (((w.afterRead env .status).withStore store).afterWrite env .data (byte.setWidth 32)).trace =
        w.trace ++ [.read .status (w.value env .status), .write .data (byte.setWidth 32)] := by
      rw [World.afterWrite_trace, World.withStore_trace, World.afterRead_trace, List.append_assoc]
      rfl
    exact .of_none rfl trace (by simp)
  | take ready =>
    have trace : ((w.afterRead env .status).afterRead env .data).trace =
        w.trace ++ [.read .status (w.value env .status), .read .data ((w.afterRead env .status).value env .data)] := by
      rw [World.afterRead_trace, World.afterRead_trace, List.append_assoc]
      rfl
    exact .of_none rfl trace (by simp)
  | assign assigns registers =>
    refine .of_none ?_ (List.append_nil _).symm fun _ _ _ _ => List.not_mem_nil
    exact (registers hook).resolve_right fun other => other rfl
  | service own => exact .of_none rfl (List.append_nil _).symm fun _ _ _ _ => List.not_mem_nil
  | push member data =>
    unfold World.afterPush
    split
    · exact .of_none rfl rfl (by simp)
    · exact .of_none rfl (List.append_nil _).symm fun _ _ _ _ => List.not_mem_nil
  | pull member data w =>
    unfold World.afterPull
    split
    · exact .of_none rfl rfl (by simp)
    · exact .of_none rfl (List.append_nil _).symm fun _ _ _ _ => List.not_mem_nil
  | call registered returned' =>
    rename_i other callback arg
    obtain ⟨may, after⟩ := returned returned'
    have called : CallsBack hook handles w (w.calling other callback arg) := by
      refine ⟨rfl, _, rfl, fun callback' arg' uart store member => ⟨may, ?_⟩⟩
      cases List.mem_singleton.1 member
      exact registered.symm
    exact called.trans after

theorem driven_callsBack (returned : ∀ {w w'}, E w w' → handles ∧ CallsBack hook handles w w')
    (driven : Driven env E (.besides hook) w w') : CallsBack hook handles w w' := by
  induction driven with
  | refl => exact .refl w
  | tail earlier last ih => exact ih.trans (last.callsBack returned)

/-- A task calls nothing back. -/
theorem driven_silent (driven : Driven env (fun _ _ => False) (.besides hook) w w') : CallsBack hook False w w' :=
  driven_callsBack False.elim driven

/-- A call that registers nothing for `hook`. -/
theorem Call.within_besides {call : Call} (none : call.registers hook = none) : call.Within (.besides hook) := by
  cases call with
  | init => cases hook <;> cases none
  | shutdown | setConfig => exact ⟨Set.mem_univ _, Set.mem_univ _⟩
  | writeAsync =>
    refine ⟨fun _ _ => Set.mem_univ _, ?_⟩
    rintro rfl
    cases none
  | readAsync =>
    refine ⟨fun _ _ => Set.mem_univ _, ?_, ?_⟩ <;>
    · rintro rfl
      cases none
  | registerErrorHandler =>
    rintro rfl
    cases none
  | push | pull => exact Set.mem_univ _
  | _ => trivial

end Driven

/-- What is registered for `hook` after a call, and what was called in it. -/
structure Notifies (hook : Hook) (call : Call) (w w' : World σ) : Prop where
  handler : handlerOf w'.uart hook = (call.registers hook).getD (handlerOf w.uart hook)
  called : CalledOnly hook call.Handles (handlerOf w.uart hook) w w'

section Calls

variable {env : Env σ} {hook : Hook} {call : Call} {w w' : World σ}

theorem CallsBack.notifies (back : CallsBack hook call.Handles w w') (none : call.registers hook = none) :
    Notifies hook call w w' := by
  refine ⟨?_, back.called⟩
  rw [none]
  exact back.handler

/-- The descriptor is assigned, and then nothing is registered any more. -/
theorem CallsBack.registered {v : World σ} (back : CallsBack hook False v w') (trace : v.trace = w.trace)
    (assigned : call.registers hook = some (handlerOf v.uart hook)) : Notifies hook call w w' := by
  refine ⟨?_, ?_⟩
  · rw [assigned]
    exact back.handler
  · obtain ⟨segment, grown, never⟩ := back.called
    rw [trace] at grown
    exact .of_none grown fun callback arg uart store member => (never callback arg uart store member).1

/-- A call that registers for `hook`. -/
theorem notifies_registering (registering : call.registers hook ≠ none) (w : World σ) :
    wp partially (exec env call) (fun _ => Notifies hook call w) w := by
  have unmasked {handles : Prop} (v : World σ) : CallsBack hook handles v (v.masked true) :=
    .of_none rfl (List.append_nil _).symm fun _ _ _ _ => List.not_mem_nil
  cases call with
  | init id =>
    have shuts : Relates partially (Driven env (fun _ _ => False) (.besides hook)) (shutdown env) :=
      driven_shutdown (Set.mem_univ _) (Set.mem_univ _)
    simp only [exec, init, wp_bind, wp_modifyDescriptor, wp_pure]
    apply wp_mono (shuts _)
    intro _ w' driven
    apply wp_mono (driven_interruptClear w')
    intro _ w'' cleared
    apply CallsBack.registered (driven_silent (driven.trans cleared))
    · rfl
    · cases hook <;> rfl
  | writeAsync fifo handler =>
    have kicks : Relates partially (Driven env (fun _ _ => False) (.besides hook)) (kick env) := driven_kick
    simp only [exec, writeAsync, wp_bind, wp_vectorDisable, wp_modifyDescriptor, wp_vectorEnable, wp_pure]
    apply wp_mono (kicks _)
    intro _ w' driven
    cases hook with
    | txEnd => exact ((driven_silent driven).trans (unmasked w')).registered rfl rfl
    | _ => exact absurd rfl registering
  | readAsync fifo handler =>
    simp only [exec, readAsync, wp_bind, wp_vectorDisable, wp_modifyDescriptor, wp_vectorEnable, wp_pure]
    cases hook with
    | rxCharacter | rxLength => exact (unmasked _).registered rfl rfl
    | _ => exact absurd rfl registering
  | registerErrorHandler handler =>
    simp only [exec, registerErrorHandler, wp_bind, wp_vectorDisable, wp_modifyDescriptor, wp_vectorEnable, wp_pure]
    cases hook with
    | error => exact (unmasked _).registered rfl rfl
    | _ => exact absurd rfl registering
  | _ => cases hook <;> exact absurd rfl registering

/-- What one call does. -/
theorem notifies_exec (callbacks : Callbacks partially env (CallsBack hook True)) (call : Call) (w : World σ) :
    wp partially (exec env call) (fun _ => Notifies hook call w) w := by
  by_cases registering : call.registers hook = none
  case neg => exact notifies_registering registering w
  by_cases handles : call.Handles
  · have handled : Relates partially (Driven env (CallsBack hook True) (.besides hook)) (exec env call) :=
      driven_handler callbacks handles
    apply wp_mono (handled w)
    intro _ w' driven
    have back := driven_callsBack (fun related => ⟨trivial, related⟩) driven
    refine CallsBack.notifies ⟨back.handler, ?_⟩ registering
    rw [eq_true handles]
    exact back.called
  · by_cases silent : ∀ byte, call ≠ .arrive byte
    · apply wp_mono (driven_task (Call.within_besides registering) handles silent w)
      intro _ w' driven
      have back := driven_silent driven
      refine CallsBack.notifies ⟨back.handler, ?_⟩ registering
      rw [eq_false handles]
      exact back.called
    · push Not at silent
      obtain ⟨byte, rfl⟩ := silent
      exact CallsBack.notifies (.of_none rfl (List.append_nil _).symm fun _ _ _ _ => List.not_mem_nil) registering

end Calls

/-- What is registered for a hook after the calls of a run. -/
def registeredAfter (start : World σ) (hook : Hook) (calls : List (Made σ)) : Callback × Arg :=
  Assignments.after (Call.registers hook) (handlerOf start.uart hook) (calls.map Taken.input)

/-- A call that calls the hook handles the interrupt, and calls what is registered. -/
def CallsRegistered (start : World σ) (hook : Hook) (earlier : List (Made σ)) (made : Made σ) : Prop :=
  ∀ callback arg uart store, .called hook callback arg uart store ∈ events made →
    made.input.Handles ∧ (callback, arg) = registeredAfter start hook earlier

/-- **What a hook calls**: in every run of any calls, on any device, a function
is called from the interrupt alone, and it is the one that the last call
registered for the hook, with its argument, or the empty one after `Uart_init`.
The functions of the caller may do anything but register for the same hook. -/
theorem hook_calls_registered {env : Env σ} {hook : Hook} (callbacks : Callbacks partially env (CallsBack hook True))
    {allowed : World σ → Call → Prop} {start w : World σ} {calls : List (Made σ)} (run : Run env allowed start calls w) :
    handlerOf w.uart hook = registeredAfter start hook calls ∧ AtEach (CallsRegistered start hook) calls := by
  apply run.invariant (I := fun calls w => handlerOf w.uart hook = registeredAfter start hook calls ∧
    AtEach (CallsRegistered start hook) calls) ⟨rfl, atEach_nil _⟩
  rintro calls w call answer w' ⟨handler, each⟩ _ ran
  have notifies := wp_ended (notifies_exec callbacks call w) ran
  refine ⟨?_, atEach_snoc.2 ⟨each, fun callback arg uart store member => ?_⟩⟩
  · rw [registeredAfter, List.map_append, List.map_singleton, Assignments.after_snoc, ← registeredAfter, ← handler]
    exact notifies.handler
  · obtain ⟨segment, trace, only⟩ := notifies.called
    rw [events_eq trace] at member
    rw [← handler]
    exact only callback arg uart store member

namespace Board

/-- The callbacks of the caller attach the first queue for reception. -/
def receiving : Env Board :=
  { env with callback := fun function arg => do
      let _ ← exec env (.readAsync (some 0) ⟨.user function, .user function, arg, arg, 0, 1⟩) }

theorem receiving_callsBack : Callbacks partially receiving (CallsBack .txEnd True) := by
  refine ⟨.refl, fun function arg w => ?_⟩
  have once : Callbacks partially env (CallsBack .txEnd True) := ⟨.refl, fun _ _ => .refl⟩
  have attaches := notifies_exec once (.readAsync (some 0) ⟨.user function, .user function, arg, arg, 0, 1⟩) w
  refine (wp_bind _ _ _ _).2 ?_
  apply wp_mono attaches
  intro _ w' notifies
  refine ⟨notifies.handler, ?_⟩
  obtain ⟨segment, trace, only⟩ := notifies.called
  exact ⟨segment, trace, fun callback arg uart store member => (only callback arg uart store member).1.elim⟩

end Board

/-- The end of a transmission on a board whose callbacks attach for reception. -/
theorem hook_calls_registered_receiving :
    let start := Board.world 2 ⟨3, [0, 0, 0, 2], [65]⟩
    ∃ calls w, Run Board.receiving (fun _ _ => True) start calls w ∧
      calls.map Taken.input = [.push 0 7, .writeAsync (some 0) ⟨.user 5, 1⟩, .handleInterrupt, .handleInterrupt] ∧
      handlerOf w.uart .txEnd = (.user 5, 1) ∧ AtEach (CallsRegistered start .txEnd) calls := by
  obtain ⟨w, performed⟩ : ∃ w, perform (exec Board.receiving) [.push 0 7, .writeAsync (some 0) ⟨.user 5, 1⟩, .handleInterrupt,
      .handleInterrupt] (Board.world 2 ⟨3, [0, 0, 0, 2], [65]⟩) = .ok (⟨⟩, w) := ⟨_, rfl⟩
  obtain ⟨calls, run, inputs⟩ := perform_run (fun _ _ _ => trivial) performed
  obtain ⟨handler, each⟩ := hook_calls_registered Board.receiving_callsBack run
  rw [registeredAfter, inputs] at handler
  exact ⟨calls, w, run, inputs, handler, each⟩

end Leon3Bsp.Uart
