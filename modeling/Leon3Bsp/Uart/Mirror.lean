import Mathlib.Data.List.Forall2
import Leon3Bsp.Lib.Coupling
import Leon3Bsp.Uart.Primitives

/-!
# What a driver sees of the world

A driver keeps to a scope: the queues and identifiers that its calls name. Two
worlds that agree there are one to it, so a call does the same in both, where
stores may agree in any way that the operations on queues do not tell apart. And
what lies outside, other queues on blocks of their own and other vectors, it
leaves alone.
-/

namespace Leon3Bsp

namespace Store
set_option autoImplicit false

variable {queues fifos others : Set FifoRef} {s t : Store} {q : FifoRef}

theorem Separate.mono (separate : Separate queues s) (among : fifos ⊆ queues) : Separate fifos s :=
  ⟨fun q member => separate.wf q (among member), fun q member r member' => separate.apart q (among member) r (among member')⟩

theorem Same.symm (same : Same fifos s t) : Same fifos t s := by
  refine ⟨fun q member => (same.fifo q member).symm, fun q member a low high => (same.mem q member a ?_ ?_).symm⟩
  · rw [← same.fifo q member]
    exact low
  · rw [← same.fifo q member]
    exact high

theorem separate_push (separate : Separate queues s) (member : q ∈ queues) (data : Byte) : Separate queues (s.push q data).2 := by
  cases full : (s.fifo q).isFull with
  | true =>
    rw [push_full full]
    exact separate
  | false => exact (push_room separate member full data).separate

theorem separate_pull (separate : Separate queues s) (member : q ∈ queues) (data : Byte) :
    Separate queues (s.pull q data).2.2 := by
  cases empty : (s.fifo q).isEmpty with
  | true =>
    rw [pull_empty empty]
    exact separate
  | false =>
    obtain ⟨rest, -, becomes⟩ := pull_held separate member empty data
    exact becomes.separate

/-- A push writes in the block of its queue. -/
theorem push_elsewhere (separate : Separate queues s) (member : q ∈ queues) (among : others ⊆ queues) (apart : q ∉ others)
    (data : Byte) : Same others s (s.push q data).2 := by
  cases full : (s.fifo q).isFull with
  | true =>
    rw [push_full full]
    exact .refl others s
  | false =>
    have wf := separate.wf q member
    have low := wf.lastLow
    have high := wf.lastHigh
    rw [push, ByteFifo.push_room full]
    have ne {r : FifoRef} (member' : r ∈ others) : r ≠ q := by
      rintro rfl
      exact apart member'
    refine ⟨fun r member' => Function.update_of_ne (ne member') _ _, fun r member' a low' high' => Function.update_of_ne ?_ _ _⟩
    have blocks := separate.apart r (among member') q member (ne member')
    omega

theorem pull_elsewhere (apart : q ∉ others) (data : Byte) : Same others s (s.pull q data).2.2 := by
  refine ⟨fun r member' => Function.update_of_ne ?_ _ _, fun _ _ _ _ _ => rfl⟩
  rintro rfl
  exact apart member'

/-- The blocks stay where the pointers of a queue move. -/
theorem block_update {fifo : ByteFifo} (begin : fifo.begin = (s.fifo q).begin) (end_ : fifo.end_ = (s.fifo q).end_)
    (r : FifoRef) : (Function.update s.fifo q fifo r).begin = (s.fifo r).begin ∧
      (Function.update s.fifo q fifo r).end_ = (s.fifo r).end_ := by
  by_cases here : r = q
  · subst here
    rw [Function.update_self]
    exact ⟨begin, end_⟩
  · rw [Function.update_of_ne here]
    exact ⟨rfl, rfl⟩

/-- A push does the same to the same queues. -/
theorem Same.push (same : Same fifos s t) (member : q ∈ fifos) (data : Byte) :
    (t.push q data).1 = (s.push q data).1 ∧ Same fifos (s.push q data).2 (t.push q data).2 := by
  have fifo := same.fifo q member
  cases full : (s.fifo q).isFull with
  | true =>
    rw [push_full full, push_full (fifo ▸ full)]
    exact ⟨rfl, same⟩
  | false =>
    rw [Store.push, Store.push, fifo, ByteFifo.push_room full, ByteFifo.push_room full]
    refine ⟨rfl, fun r member' => ?_, fun r member' a low high => ?_⟩
    · dsimp only
      rw [Function.update_apply, Function.update_apply, same.fifo r member']
    · obtain ⟨begin, end_⟩ := block_update (s := s) (s.fifo q).pushed_begin (s.fifo q).pushed_end r
      dsimp only at low high ⊢
      rw [begin] at low
      rw [end_] at high
      rw [Memory.store, Memory.store, Function.update_apply, Function.update_apply, same.mem r member' a low high]

/-- So does a pull, which takes the same byte. -/
theorem Same.pull (same : Same fifos s t) (separate : Separate fifos s) (member : q ∈ fifos) (data : Byte) :
    (t.pull q data).1 = (s.pull q data).1 ∧ (t.pull q data).2.1 = (s.pull q data).2.1 ∧
      Same fifos (s.pull q data).2.2 (t.pull q data).2.2 := by
  have fifo := same.fifo q member
  cases empty : (s.fifo q).isEmpty with
  | true =>
    rw [pull_empty empty, pull_empty (fifo ▸ empty)]
    exact ⟨rfl, rfl, same⟩
  | false =>
    have held : (s.fifo q).first ≠ NULL := by simpa [ByteFifo.isEmpty] using empty
    obtain ⟨low, high⟩ := (separate.wf q member).firstIn held
    rw [Store.pull, Store.pull, fifo, ByteFifo.pull_held empty, ByteFifo.pull_held empty]
    refine ⟨rfl, same.mem q member _ low high, fun r member' => ?_, fun r member' a low' high' => ?_⟩
    · dsimp only
      rw [Function.update_apply, Function.update_apply, same.fifo r member']
    · obtain ⟨begin, end_⟩ := block_update (s := s) (s.fifo q).pulled_begin (s.fifo q).pulled_end r
      dsimp only at low' high'
      rw [begin] at low'
      rw [end_] at high'
      exact same.mem r member' a low' high'

/-- The operations on the queues do not tell apart what `L` relates. -/
structure Indistinct (fifos : Set FifoRef) (L : Store → Store → Prop) : Prop where
  isEmpty : ∀ s t, L s t → ∀ q ∈ fifos, (t.fifo q).isEmpty = (s.fifo q).isEmpty
  isFull : ∀ s t, L s t → ∀ q ∈ fifos, (t.fifo q).isFull = (s.fifo q).isFull
  getCount : ∀ s t, L s t → ∀ q ∈ fifos, (t.fifo q).getCount = (s.fifo q).getCount
  push : ∀ s t, L s t → ∀ q ∈ fifos, ∀ data,
    (t.push q data).1 = (s.push q data).1 ∧ L (s.push q data).2 (t.push q data).2
  pull : ∀ s t, L s t → ∀ q ∈ fifos, ∀ data,
    (t.pull q data).1 = (s.pull q data).1 ∧ (t.pull q data).2.1 = (s.pull q data).2.1 ∧
      L (s.pull q data).2.2 (t.pull q data).2.2

/-- The queues of `s` lie in `t` too. -/
structure Copied (fifos : Set FifoRef) (s t : Store) : Prop where
  separate : Separate fifos s
  same : Same fifos s t

theorem indistinct_copied (fifos : Set FifoRef) : Indistinct fifos (Copied fifos) where
  isEmpty s t copied q member := congrArg ByteFifo.isEmpty (copied.same.fifo q member)
  isFull s t copied q member := congrArg ByteFifo.isFull (copied.same.fifo q member)
  getCount s t copied q member := congrArg ByteFifo.getCount (copied.same.fifo q member)
  push s t copied q member data := by
    obtain ⟨result, same⟩ := copied.same.push member data
    exact ⟨result, separate_push copied.separate member data, same⟩
  pull s t copied q member data := by
    obtain ⟨result, byte, same⟩ := copied.same.pull copied.separate member data
    exact ⟨result, byte, separate_pull copied.separate member data, same⟩

end Store

namespace Uart
set_option autoImplicit false
open Wp Coupling

variable {σ : Type}

/-- A descriptor that names nothing outside. -/
structure Named (scope : Scope) (uart : Uart) : Prop where
  id : uart.id ∈ scope.ids
  txFifo : ∀ q, uart.txFifo = some q → q ∈ scope.fifos
  rxFifo : ∀ q, uart.rxFifo = some q → q ∈ scope.fifos

theorem Named.assigns {scope : Scope} {uart uart' : Uart} (named : Named scope uart) (assigns : Assigns scope uart uart') :
    Named scope uart' := by
  refine ⟨?_, fun q attached => ?_, fun q attached => ?_⟩
  · rcases assigns.id with same | own
    · rw [same]
      exact named.id
    · exact own
  · exact (assigns.txFifo q attached).elim (named.txFifo q) fun own => own
  · exact (assigns.rxFifo q attached).elim (named.rxFifo q) fun own => own

/-- The same observation, where the stores that a callback finds are related by `L`. -/
inductive Event.Mirrors (L : Store → Store → Prop) : Event → Event → Prop
  | same (event : Event) : Mirrors L event event
  | called {hook : Hook} {callback : Callback} {arg : Arg} {uart : Uart} {store store' : Store} (related : L store store') :
      Mirrors L (.called hook callback arg uart store) (.called hook callback arg uart store')

/-- Two worlds that agree on all that is in the scope, their stores up to `L`. -/
structure Mirrors (scope : Scope) (L : Store → Store → Prop) (w v : World σ) : Prop where
  named : Named scope w.uart
  uart : v.uart = w.uart
  hw : v.hw = w.hw
  store : L w.store v.store
  vectors : ∀ id ∈ scope.ids, v.rtems.vector (interruptNumber id) = w.rtems.vector (interruptNumber id)
  trace : List.Forall₂ (Event.Mirrors L) w.trace v.trace

section Mirrors

variable {scope : Scope} {L : Store → Store → Prop} {w v : World σ} {env : Env σ}

theorem Mirrors.observed (mirrors : Mirrors scope L w v) (segment : List Event) :
    List.Forall₂ (Event.Mirrors L) (w.trace ++ segment) (v.trace ++ segment) :=
  List.rel_append mirrors.trace (List.forall₂_same.2 fun event _ => .same event)

theorem Mirrors.value (mirrors : Mirrors scope L w v) (env : Env σ) (r : Register) : v.value env r = w.value env r := by
  rw [World.value, mirrors.hw]
  rfl

/-- The descriptors, the devices and the traces move alike. -/
theorem Mirrors.moves (mirrors : Mirrors scope L w v) {w' v' : World σ} {segment : List Event} (named : Named scope w'.uart)
    (uart : v'.uart = w'.uart) (hw : v'.hw = w'.hw) (storeLeft : w'.store = w.store) (storeRight : v'.store = v.store)
    (rtemsLeft : w'.rtems = w.rtems) (rtemsRight : v'.rtems = v.rtems) (traceLeft : w'.trace = w.trace ++ segment)
    (traceRight : v'.trace = v.trace ++ segment) : Mirrors scope L w' v' := by
  refine ⟨named, uart, hw, ?_, ?_, ?_⟩
  · rw [storeLeft, storeRight]
    exact mirrors.store
  · rw [rtemsLeft, rtemsRight]
    exact mirrors.vectors
  · rw [traceLeft, traceRight]
    exact mirrors.observed segment

theorem Mirrors.afterRead (mirrors : Mirrors scope L w v) (env : Env σ) (r : Register) :
    Mirrors scope L (w.afterRead env r) (v.afterRead env r) := by
  have hw : (v.afterRead env r).hw = (w.afterRead env r).hw := by rw [World.afterRead_hw, World.afterRead_hw, mirrors.hw]
  have trace : (v.afterRead env r).trace = v.trace ++ [.read r (w.value env r)] := by
    rw [World.afterRead_trace, mirrors.value]
  exact mirrors.moves mirrors.named mirrors.uart hw rfl rfl rfl rfl rfl trace

theorem Mirrors.afterWrite (mirrors : Mirrors scope L w v) (env : Env σ) (r : Register) (value : Word) :
    Mirrors scope L (w.afterWrite env r value) (v.afterWrite env r value) := by
  have hw : (v.afterWrite env r value).hw = (w.afterWrite env r value).hw := by
    rw [World.afterWrite_hw, World.afterWrite_hw, mirrors.hw]
  exact mirrors.moves mirrors.named mirrors.uart hw rfl rfl rfl rfl rfl rfl

theorem Mirrors.withUart (mirrors : Mirrors scope L w v) {uart : Uart} (named : Named scope uart) :
    Mirrors scope L (w.withUart uart) (v.withUart uart) :=
  mirrors.moves named rfl mirrors.hw rfl rfl rfl rfl (List.append_nil _).symm (List.append_nil _).symm

/-- RTEMS moves alike at the vectors of the scope, where a service goes by the descriptor. -/
theorem Mirrors.served (mirrors : Mirrors scope L w v) {n : Uart → Nat} {act : Uart → Rtems.Vector → Rtems.Vector}
    (service : Uart → Rtems → Rtems) (serves : ∀ uart, Rtems.Serves (n uart) (act uart) (service uart)) :
    Mirrors scope L { w with rtems := service w.uart w.rtems } { v with rtems := service v.uart v.rtems } := by
  refine ⟨mirrors.named, mirrors.uart, mirrors.hw, mirrors.store, fun id own => ?_, mirrors.trace⟩
  show (service v.uart v.rtems).vector _ = (service w.uart w.rtems).vector _
  rw [serves, serves, mirrors.uart, mirrors.vectors id own]

theorem Mirrors.masked (mirrors : Mirrors scope L w v) (enabled : Bool) : Mirrors scope L (w.masked enabled) (v.masked enabled) := by
  cases enabled with
  | true => exact mirrors.served (fun uart => (Rtems.vectorEnable · (interruptNumber uart.id))) fun _ => Rtems.serves_vectorEnable _
  | false => exact mirrors.served (fun uart => (Rtems.vectorDisable · (interruptNumber uart.id))) fun _ => Rtems.serves_vectorDisable _

theorem Mirrors.calling (mirrors : Mirrors scope L w v) (hook : Hook) (callback : Callback) (arg : Arg) :
    Mirrors scope L (w.calling hook callback arg) (v.calling hook callback arg) := by
  refine ⟨mirrors.named, mirrors.uart, mirrors.hw, mirrors.store, mirrors.vectors, ?_⟩
  rw [World.calling_trace, World.calling_trace, mirrors.uart]
  exact List.rel_append mirrors.trace (.cons (.called mirrors.store) .nil)

/-- The stores move alike. -/
theorem Mirrors.stored (mirrors : Mirrors scope L w v) {w' v' : World σ} {segment : List Event} (uartLeft : w'.uart = w.uart)
    (uartRight : v'.uart = v.uart) (hwLeft : w'.hw = w.hw) (hwRight : v'.hw = v.hw) (rtemsLeft : w'.rtems = w.rtems)
    (rtemsRight : v'.rtems = v.rtems) (store : L w'.store v'.store) (traceLeft : w'.trace = w.trace ++ segment)
    (traceRight : v'.trace = v.trace ++ segment) : Mirrors scope L w' v' := by
  refine ⟨?_, ?_, ?_, store, ?_, ?_⟩
  · rw [uartLeft]
    exact mirrors.named
  · rw [uartLeft, uartRight, mirrors.uart]
  · rw [hwLeft, hwRight, mirrors.hw]
  · rw [rtemsLeft, rtemsRight]
    exact mirrors.vectors
  · rw [traceLeft, traceRight]
    exact mirrors.observed segment

theorem Mirrors.afterPush (indistinct : Store.Indistinct scope.fifos L) (mirrors : Mirrors scope L w v) {q : FifoRef}
    (member : q ∈ scope.fifos) (data : Byte) : Mirrors scope L (w.afterPush q data) (v.afterPush q data) := by
  obtain ⟨result, store⟩ := indistinct.push _ _ mirrors.store q member data
  unfold World.afterPush
  rw [result]
  split
  · exact mirrors.stored rfl rfl rfl rfl rfl rfl store rfl rfl
  · exact mirrors.stored rfl rfl rfl rfl rfl rfl store (List.append_nil _).symm (List.append_nil _).symm

theorem Mirrors.afterPull (indistinct : Store.Indistinct scope.fifos L) (mirrors : Mirrors scope L w v) {q : FifoRef}
    (member : q ∈ scope.fifos) (data : Byte) : Mirrors scope L (w.afterPull q data) (v.afterPull q data) := by
  obtain ⟨result, byte, store⟩ := indistinct.pull _ _ mirrors.store q member data
  unfold World.afterPull
  rw [result, byte]
  split
  · exact mirrors.stored rfl rfl rfl rfl rfl rfl store rfl rfl
  · exact mirrors.stored rfl rfl rfl rfl rfl rfl store (List.append_nil _).symm (List.append_nil _).symm

end Mirrors

section Respects

variable {scope : Scope} {L : Store → Store → Prop} {env : Env σ}

theorem mirrors_readRegister (r : Register) : Respects (Mirrors scope L) (readRegister env r) :=
  fun _ _ mirrors => alike_act (mirrors.value env r) (mirrors.afterRead env r)

theorem mirrors_writeRegister (r : Register) (value : Word) : Respects (Mirrors scope L) (writeRegister env r value) :=
  fun _ _ mirrors => alike_act rfl (mirrors.afterWrite env r value)

theorem mirrors_readData : Respects (Mirrors scope L) (readData env) :=
  (mirrors_readRegister .data).bind fun _ => respects_pure _

/-- A program may use that the descriptor names nothing outside. -/
theorem mirrors_descriptor {α : Type} {m : Uart → Driver σ α} (respects : ∀ uart, Named scope uart → Respects (Mirrors scope L) (m uart)) :
    Respects (Mirrors scope L) (descriptor >>= m) := by
  intro w v mirrors
  refine Alike.bind (alike_act mirrors.uart mirrors) fun uart w' v' ran mirrors' => ?_
  cases ran
  exact respects w.uart mirrors.named w v' mirrors'

theorem mirrors_modifyDescriptor {f : Uart → Uart} (assigns : ∀ uart, Assigns scope uart (f uart)) :
    Respects (Mirrors scope L) (modifyDescriptor f : Driver σ Unit) := by
  intro w v mirrors
  refine alike_act rfl ?_
  rw [mirrors.uart]
  exact mirrors.withUart (mirrors.named.assigns (assigns w.uart))

theorem mirrors_setSentBytes (n : Word) : Respects (Mirrors scope L) (setSentBytes n : Driver σ Unit) :=
  mirrors_modifyDescriptor fun _ => .of_same rfl rfl rfl

theorem mirrors_setErrorFlags (flags : ErrorFlags) : Respects (Mirrors scope L) (setErrorFlags flags : Driver σ Unit) :=
  mirrors_modifyDescriptor fun _ => .of_same rfl rfl rfl

theorem mirrors_vectorEnable : Respects (Mirrors scope L) (vectorEnable : Driver σ Unit) :=
  fun _ _ mirrors => alike_act rfl (mirrors.masked true)

theorem mirrors_vectorDisable : Respects (Mirrors scope L) (vectorDisable : Driver σ Unit) :=
  fun _ _ mirrors => alike_act rfl (mirrors.masked false)

theorem mirrors_entryInstall : Respects (Mirrors scope L) (entryInstall : Driver σ Unit) :=
  fun _ _ mirrors => alike_act rfl <| mirrors.served
    (fun uart => (Rtems.entryInstall · (interruptNumber uart.id) uart.interruptData.rtemsInterruptEntry))
    fun _ => Rtems.serves_entryInstall _ _

theorem mirrors_entryRemove : Respects (Mirrors scope L) (entryRemove : Driver σ Unit) :=
  fun _ _ mirrors => alike_act rfl <| mirrors.served
    (fun uart => (Rtems.entryRemove · (interruptNumber uart.id) uart.interruptData.rtemsInterruptEntry))
    fun _ => Rtems.serves_entryRemove _ _

theorem mirrors_interruptClear : Respects (Mirrors scope L) (interruptClear : Driver σ Unit) :=
  fun _ _ mirrors => alike_act rfl <|
    mirrors.served (fun uart => (Rtems.interruptClear · (interruptNumber uart.id))) fun _ => Rtems.serves_interruptClear _

section Queues

variable (indistinct : Store.Indistinct scope.fifos L) {pointer : Option FifoRef} (member : ∀ q, pointer = some q → q ∈ scope.fifos)
include indistinct member

theorem mirrors_fifoIsEmpty : Respects (Mirrors scope L) (fifoIsEmpty pointer : Driver σ Bool) := by
  cases pointer with
  | none => exact respects_fault _
  | some q => exact fun w v mirrors => alike_act (indistinct.isEmpty _ _ mirrors.store q (member q rfl)) mirrors

theorem mirrors_fifoIsFull : Respects (Mirrors scope L) (fifoIsFull pointer : Driver σ Bool) := by
  cases pointer with
  | none => exact respects_fault _
  | some q => exact fun w v mirrors => alike_act (indistinct.isFull _ _ mirrors.store q (member q rfl)) mirrors

theorem mirrors_fifoGetCount : Respects (Mirrors scope L) (fifoGetCount pointer : Driver σ Word) := by
  cases pointer with
  | none => exact respects_fault _
  | some q => exact fun w v mirrors => alike_act (indistinct.getCount _ _ mirrors.store q (member q rfl)) mirrors

theorem mirrors_fifoPush (data : Byte) : Respects (Mirrors scope L) (fifoPush pointer data : Driver σ Bool) := by
  cases pointer with
  | none => exact respects_fault _
  | some q =>
    intro w v mirrors
    obtain ⟨result, -⟩ := indistinct.push _ _ mirrors.store q (member q rfl) data
    exact alike_act result (mirrors.afterPush indistinct (member q rfl) data)

theorem mirrors_fifoPull (data : Byte) : Respects (Mirrors scope L) (fifoPull pointer data : Driver σ (Bool × Byte)) := by
  cases pointer with
  | none => exact respects_fault _
  | some q =>
    intro w v mirrors
    obtain ⟨result, byte, store⟩ := indistinct.pull _ _ mirrors.store q (member q rfl) data
    refine alike_act (Prod.ext result byte) ?_
    exact mirrors.stored rfl rfl rfl rfl rfl rfl store (List.append_nil _).symm (List.append_nil _).symm

end Queues

theorem mirrors_setFlag (isSet : Bool) (flag : Nat) : Respects (Mirrors scope L) (setFlag env isSet flag) :=
  (mirrors_readRegister .control).bind fun _ => mirrors_writeRegister .control _

theorem mirrors_setBaudRate (baud : BaudRate) : Respects (Mirrors scope L) (setBaudRate env baud) := by
  rw [setBaudRate_eq]
  apply Respects.ite
  · exact respects_pure false
  · exact (mirrors_writeRegister .clkscl _).bind fun _ => respects_pure true

theorem mirrors_setConfig (config : Config) : Respects (Mirrors scope L) (setConfig env config) := by
  unfold setConfig setParity
  refine (mirrors_setFlag _ _).bind fun _ => (mirrors_setFlag _ _).bind fun _ => (mirrors_setFlag _ _).bind fun _ =>
    (mirrors_setFlag _ _).bind fun _ => (mirrors_setFlag _ _).bind fun _ => (mirrors_setFlag _ _).bind fun _ =>
    (mirrors_setFlag _ _).bind fun _ => (mirrors_setBaudRate _).bind fun _ => ?_
  apply Respects.ite
  · exact (mirrors_setFlag _ _).bind fun _ => mirrors_setFlag _ _
  · exact respects_pure ()

theorem mirrors_getConfig : Respects (Mirrors scope L) (getConfig env) := by
  have control : Respects (Mirrors scope L) (readRegister env .control) := mirrors_readRegister .control
  unfold getConfig getParity
  rw [getBaudRate_eq]
  refine control.bind fun _ => control.bind fun _ => control.bind fun _ => Respects.bind ?parity fun _ =>
    Respects.bind ?baudRate fun _ => respects_pure _
  case parity => exact control.bind fun _ => .ite (control.bind fun _ => respects_pure _) (respects_pure _)
  case baudRate => exact (mirrors_readRegister .clkscl).bind fun _ => respects_pure _

theorem mirrors_startup : Respects (Mirrors scope L) (startup : Driver σ Unit) :=
  (mirrors_setSentBytes 0).bind fun _ => (mirrors_setErrorFlags .zero).bind fun _ =>
    mirrors_entryInstall.bind fun _ => mirrors_vectorEnable

theorem mirrors_shutdown : Respects (Mirrors scope L) (shutdown env) :=
  mirrors_vectorDisable.bind fun _ => mirrors_entryRemove.bind fun _ => (mirrors_writeRegister .control 0).bind fun _ =>
    (mirrors_writeRegister .status 0).bind fun _ => (mirrors_setSentBytes 0).bind fun _ => mirrors_setErrorFlags .zero

theorem mirrors_init {id : Id} (own : id ∈ scope.ids) : Respects (Mirrors scope L) (init env id) := by
  refine (mirrors_modifyDescriptor fun _ => ⟨Or.inr own, fun _ attached => ?_, fun _ attached => ?_⟩).bind fun _ =>
    mirrors_shutdown.bind fun _ => mirrors_interruptClear
  · cases attached
  · cases attached

theorem mirrors_writePoll (data : Byte) (limit : Word) (budget : Nat) (timeout : Word) :
    Respects (Mirrors scope L) (writePoll env data limit budget timeout) := by
  induction budget generalizing timeout with
  | zero => exact respects_fault Fault.outOfPatience
  | succ budget ih =>
    have send : Respects (Mirrors scope L) (do writeData env data; vectorEnable; pure true) :=
      (mirrors_writeRegister .data _).bind fun _ => mirrors_vectorEnable.bind fun _ => respects_pure true
    unfold writePoll
    refine .ite ?_ (respects_pure false)
    exact (mirrors_readRegister .status).bind fun status => .ite send (ih _)

theorem mirrors_readPoll (data : Byte) (limit : Word) (errCode : ErrorCode) (budget : Nat) (timeout : Word) :
    Respects (Mirrors scope L) (readPoll env (pure ()) data limit errCode budget timeout) := by
  induction budget generalizing timeout with
  | zero => exact respects_fault Fault.outOfPatience
  | succ budget ih =>
    unfold readPoll
    refine (respects_pure ()).bind fun _ => mirrors_descriptor fun uart _ => .ite (respects_pure _) ?_
    refine (mirrors_readRegister .status).bind fun status => .ite ?_ (.ite (ih _) (respects_pure none))
    exact mirrors_readData.bind fun _ => respects_pure _

theorem mirrors_write (data : Byte) (limit : Word) (errCode : ErrorCode) :
    Respects (Mirrors scope L) (write env data limit errCode) := by
  refine mirrors_vectorDisable.bind fun _ => mirrors_descriptor fun uart _ => ?_
  cases uart.txFifo with
  | none => exact (mirrors_writePoll _ _ _ _).bind fun _ => respects_pure _
  | some q => exact mirrors_vectorEnable.bind fun _ => respects_pure _

theorem mirrors_read (data : Byte) (limit : Word) (errCode : ErrorCode) :
    Respects (Mirrors scope L) (read env data limit errCode) := by
  refine mirrors_vectorDisable.bind fun _ => mirrors_descriptor fun uart _ => ?_
  cases uart.rxFifo with
  | some q => exact mirrors_vectorEnable.bind fun _ => respects_pure _
  | none =>
    refine mirrors_vectorEnable.bind fun _ => (mirrors_readPoll _ _ _ _ _).bind fun polled => ?_
    cases polled with
    | some returned => exact respects_pure returned
    | none => exact mirrors_vectorEnable.bind fun _ => respects_pure _

theorem mirrors_kick (indistinct : Store.Indistinct scope.fifos L) : Respects (Mirrors scope L) (kick env) := by
  refine (mirrors_readRegister .status).bind fun status => .ite ?_ (respects_pure ())
  exact mirrors_descriptor fun uart named => (mirrors_fifoPull indistinct named.txFifo 0).bind fun _ => mirrors_writeRegister .data _

theorem mirrors_writeAsync (indistinct : Store.Indistinct scope.fifos L) {fifo : Option FifoRef}
    (member : ∀ q, fifo = some q → q ∈ scope.fifos) (handler : TxHandler) : Respects (Mirrors scope L) (writeAsync env fifo handler) := by
  unfold writeAsync
  refine mirrors_vectorDisable.bind fun _ => Respects.bind (mirrors_modifyDescriptor fun _ => ?_) fun _ =>
    (mirrors_kick indistinct).bind fun _ => mirrors_vectorEnable
  exact ⟨Or.inl rfl, fun q attached => Or.inr (member q attached), fun _ => Or.inl⟩

theorem mirrors_readAsync {fifo : Option FifoRef} (member : ∀ q, fifo = some q → q ∈ scope.fifos) (handler : RxHandler) :
    Respects (Mirrors scope L) (readAsync fifo handler : Driver σ Unit) := by
  unfold readAsync
  refine mirrors_vectorDisable.bind fun _ => Respects.bind (mirrors_modifyDescriptor fun _ => ?_) fun _ => mirrors_vectorEnable
  exact ⟨Or.inl rfl, fun _ => Or.inl, fun q attached => Or.inr (member q attached)⟩

theorem mirrors_registerErrorHandler (handler : ErrorHandler) :
    Respects (Mirrors scope L) (registerErrorHandler handler : Driver σ Unit) := by
  unfold registerErrorHandler
  refine mirrors_vectorDisable.bind fun _ => Respects.bind (mirrors_modifyDescriptor fun _ => ?_) fun _ => mirrors_vectorEnable
  exact .of_same rfl rfl rfl

theorem mirrors_query {α : Type} {result : Uart → Driver σ α}
    (respects : ∀ uart, Named scope uart → Respects (Mirrors scope L) (result uart)) : Respects (Mirrors scope L) (query result) :=
  mirrors_vectorDisable.bind fun _ => mirrors_descriptor fun uart named => (respects uart named).bind fun _ =>
    mirrors_vectorEnable.bind fun _ => respects_pure _

section Handlers

variable (indistinct : Store.Indistinct scope.fifos L)
  (blind : ∀ function arg, Respects (Mirrors scope L) (env.callback function arg))
include blind

theorem mirrors_invoke (hook : Hook) (callback : Callback) (arg : Arg) :
    Respects (Mirrors scope L) (invoke env hook callback arg) := by
  intro w v mirrors
  refine Alike.bind (alike_act rfl (mirrors.calling hook callback arg)) fun _ w' v' _ mirrors' => ?_
  cases callback with
  | emptyCallback => exact alike_pure mirrors' ()
  | user function => exact blind function arg w' v' mirrors'

theorem mirrors_handleError : Respects (Mirrors scope L) (handleError env) := by
  refine (mirrors_readRegister .status).bind fun status => (mirrors_setErrorFlags _).bind fun _ => ?_
  apply Respects.ite
  · exact mirrors_descriptor fun uart _ => (mirrors_invoke blind _ _ _).bind fun _ => respects_pure true
  · exact respects_pure false

theorem mirrors_matchCharacter (buf : Byte) : Respects (Mirrors scope L) (matchCharacter env buf) :=
  mirrors_descriptor fun _ _ => .ite (mirrors_invoke blind _ _ _) (respects_pure ())

theorem mirrors_countByte : Respects (Mirrors scope L) (countByte env) := by
  refine mirrors_descriptor fun _ _ => (mirrors_setSentBytes _).bind fun _ => mirrors_descriptor fun _ _ => ?_
  exact .ite ((mirrors_setSentBytes 0).bind fun _ => mirrors_invoke blind _ _ _) (respects_pure ())

include indistinct

theorem mirrors_acceptByte (buf : Byte) : Respects (Mirrors scope L) (acceptByte env buf) :=
  (mirrors_matchCharacter blind buf).bind fun _ => (mirrors_countByte blind).bind fun _ => mirrors_descriptor fun _ named =>
    (mirrors_fifoPush indistinct named.rxFifo buf).bind fun _ => respects_pure ()

theorem mirrors_receiveByte : Respects (Mirrors scope L) (receiveByte env) := by
  refine mirrors_descriptor fun uart named => ?_
  cases attached : uart.rxFifo with
  | none => exact respects_pure ()
  | some q =>
    have member : ∀ r, some q = some r → r ∈ scope.fifos := by
      rw [← attached]
      exact named.rxFifo
    refine mirrors_readData.bind fun buf => (mirrors_fifoIsFull indistinct member).bind fun full => ?_
    exact .ite (mirrors_setErrorFlags _) (mirrors_acceptByte indistinct blind buf)

theorem mirrors_handleRx : Respects (Mirrors scope L) (handleRx env) := by
  refine (mirrors_readRegister .control).bind fun _ => .ite ?_ (respects_pure false)
  refine (mirrors_readRegister .status).bind fun _ => .ite ?_ (respects_pure false)
  exact (mirrors_receiveByte indistinct blind).bind fun _ => respects_pure true

theorem mirrors_transmitByte : Respects (Mirrors scope L) (transmitByte env) := by
  refine mirrors_descriptor fun uart named => ?_
  cases attached : uart.txFifo with
  | none => exact respects_pure ()
  | some q =>
    have member : ∀ r, some q = some r → r ∈ scope.fifos := by
      rw [← attached]
      exact named.txFifo
    refine (mirrors_fifoIsEmpty indistinct member).bind fun empty => .ite (respects_pure ()) ?_
    refine (mirrors_fifoPull indistinct member 0).bind fun _ => (mirrors_writeRegister .data _).bind fun _ => ?_
    exact (mirrors_fifoIsEmpty indistinct member).bind fun _ => .ite (mirrors_invoke blind _ _ _) (respects_pure ())

theorem mirrors_handleTx : Respects (Mirrors scope L) (handleTx env) := by
  refine (mirrors_readRegister .control).bind fun _ => .ite ?_ (respects_pure false)
  refine (mirrors_readRegister .status).bind fun _ => .ite ?_ (respects_pure false)
  exact (mirrors_transmitByte indistinct blind).bind fun _ => respects_pure true

/-- A call within the scope does the same in worlds that agree there. -/
theorem mirrors_exec {call : Call} (within : call.Within scope) : Respects (Mirrors scope L) (exec env call) := by
  have answers {α : Type} {m : Driver σ α} {answer : α → Answer} (respects : Respects (Mirrors scope L) m) :
      Respects (Mirrors scope L) (do let a ← m; pure (answer a)) := respects.bind fun _ => respects_pure _
  cases call with
  | init id => exact answers (mirrors_init within.1)
  | startup => exact answers mirrors_startup
  | shutdown => exact answers mirrors_shutdown
  | setConfig config => exact answers (mirrors_setConfig config)
  | getConfig => exact answers mirrors_getConfig
  | write data limit errCode => exact answers (mirrors_write data limit errCode)
  | read data limit errCode => exact answers (mirrors_read data limit errCode)
  | writeAsync fifo handler => exact answers (mirrors_writeAsync indistinct within.1 handler)
  | readAsync fifo handler => exact answers (mirrors_readAsync within.1 handler)
  | isTxEmpty => exact answers (mirrors_query fun _ named => mirrors_fifoIsEmpty indistinct named.txFifo)
  | isRxEmpty => exact answers (mirrors_query fun _ named => mirrors_fifoIsEmpty indistinct named.rxFifo)
  | getTxFifoCount => exact answers (mirrors_query fun _ named => mirrors_fifoGetCount indistinct named.txFifo)
  | getRxFifoCount => exact answers (mirrors_query fun _ named => mirrors_fifoGetCount indistinct named.rxFifo)
  | registerErrorHandler handler => exact answers (mirrors_registerErrorHandler handler)
  | handleError => exact answers (mirrors_handleError blind)
  | handleRx => exact answers (mirrors_handleRx indistinct blind)
  | handleTx => exact answers (mirrors_handleTx indistinct blind)
  | handleInterrupt =>
    exact answers ((mirrors_handleError blind).bind fun _ => (mirrors_handleRx indistinct blind).bind fun _ =>
      (mirrors_handleTx indistinct blind).bind fun _ => respects_pure ())
  | push fifo data =>
    refine answers fun w v mirrors => ?_
    obtain ⟨result, -⟩ := indistinct.push _ _ mirrors.store fifo within data
    exact alike_act result (mirrors.afterPush indistinct within data)
  | pull fifo data =>
    refine answers fun w v mirrors => ?_
    obtain ⟨result, byte, -⟩ := indistinct.pull _ _ mirrors.store fifo within data
    exact alike_act (Prod.ext result byte) (mirrors.afterPull indistinct within data)
  | arrive data =>
    refine fun w v mirrors => alike_act rfl (mirrors.moves mirrors.named mirrors.uart ?_ rfl rfl rfl rfl
      (List.append_nil _).symm (List.append_nil _).symm)
    exact congrArg (env.device.arrive data) mirrors.hw

end Handlers

end Respects

end Uart

end Leon3Bsp
