import TvApp.StepSystem

/-! Digit keys and the key timer of `tv_app.c`.
A digit re-arms the one-shot timer and goes into a buffer of three; when the timer
expires, a thread of its own runs `changeChannel`, which reads the buffer and
clears it.  First the buffer alone, with any number of digits before one expiry,
then every interleaving of presses, expiries and notifications. -/
namespace TvApp

/-- `keysPressed` and `keys`.  The values stay far below the width of `int32_t`. -/
structure KeyBuffer where
  keysPressed : ℤ
  keys : Fin 3 → ℤ
  deriving DecidableEq

/-- As the statics start, and as `changeChannel` leaves them. -/
def KeyBuffer.reset : KeyBuffer := ⟨0,fun _ => 0⟩

/-- `inputChannelNumber`, without the timer.  In the last branch the source has the
comparison `keysPressed == 1` for a statement, so the counter stays at three. -/
def inputChannelNumber (b : KeyBuffer) (key : UInt16) : KeyBuffer :=
  if b.keysPressed = 0 then
    { keysPressed := b.keysPressed+1, keys := Function.update b.keys 0 key.toNat }
  else if b.keysPressed = 1 then
    { keysPressed := b.keysPressed+1, keys := Function.update b.keys 1 key.toNat }
  else if b.keysPressed = 2 then
    { keysPressed := b.keysPressed+1, keys := Function.update b.keys 2 key.toNat }
  else if b.keysPressed = 3 then
    { b with
      keys := Function.update (Function.update (Function.update b.keys 0 key.toNat) 1 0) 2 0 }
  else b

/-- The local variable `channel` of `changeChannel`, `none` as long as it is
uninitialised. -/
def dialledChannel (b : KeyBuffer) : Option ℤ :=
  if b.keysPressed = 1 then some (b.keys 0)
  else if b.keysPressed = 2 then some (10*b.keys 0+b.keys 1)
  else if b.keysPressed = 3 then some (100*b.keys 0+10*b.keys 1+b.keys 2)
  else none

/-- `changeChannel`: what is passed to `changeChannelKey`, and the buffer afterwards. -/
def changeChannel (b : KeyBuffer) : Option ℤ × KeyBuffer :=
  (dialledChannel b,{ keysPressed := 0, keys := fun _ => 0 })

/-- The `KEYCODE_0` to `KEYCODE_9` cases of `remoteControllerCallback`. -/
def digitKey (d : Fin 10) : UInt16 := UInt16.ofNat d.val

def pressDigits (b : KeyBuffer) (ds : List (Fin 10)) : KeyBuffer :=
  ds.foldl (fun b d => inputChannelNumber b (digitKey d)) b

theorem digitKey_toNat (d : Fin 10) : (digitKey d).toNat = d.val := by
  have := d.isLt
  rw [digitKey,UInt16.toNat_ofNat']
  omega

def KeyBuffer.holding (keysPressed : ℤ) (digits : List ℤ) : KeyBuffer :=
  ⟨keysPressed,fun i => digits.getD i 0⟩

@[simp] theorem KeyBuffer.holding_keysPressed (n : ℤ) (digits : List ℤ) :
    (KeyBuffer.holding n digits).keysPressed = n := rfl

theorem inputChannelNumber_room (digits : List ℤ) (h : digits.length < 3) (key : UInt16) :
    inputChannelNumber (.holding digits.length digits) key =
      .holding (digits.length+1) (digits++[(key.toNat : ℤ)]) := by
  match digits, h with
  | [], _ =>
    rw [inputChannelNumber,if_pos (by simp)]
    refine congrArg (KeyBuffer.mk _) (funext fun i => ?_)
    fin_cases i <;> rfl
  | [a], _ =>
    rw [inputChannelNumber,if_neg (by simp),if_pos (by simp)]
    refine congrArg (KeyBuffer.mk _) (funext fun i => ?_)
    fin_cases i <;> rfl
  | [a,b], _ =>
    rw [inputChannelNumber,if_neg (by simp),if_neg (by simp),if_pos (by simp)]
    refine congrArg (KeyBuffer.mk _) (funext fun i => ?_)
    fin_cases i <;> rfl

theorem inputChannelNumber_full (digits : List ℤ) (key : UInt16) :
    inputChannelNumber (.holding 3 digits) key = .holding 3 [(key.toNat : ℤ)] := by
  rw [inputChannelNumber,if_neg (by simp),if_neg (by simp),if_neg (by simp),if_pos (by simp)]
  refine congrArg (KeyBuffer.mk _) (funext fun i => ?_)
  fin_cases i <;> rfl

def digitValues (ds : List (Fin 10)) : List ℤ := ds.map fun d => (d.val : ℤ)

theorem pressDigits_concat (b : KeyBuffer) (ds : List (Fin 10)) (d : Fin 10) :
    pressDigits b (ds++[d]) = inputChannelNumber (pressDigits b ds) (digitKey d) :=
  List.foldl_append

theorem pressDigits_short (ds : List (Fin 10)) (h : ds.length ≤ 3) :
    pressDigits .reset ds = .holding ds.length (digitValues ds) := by
  induction ds using List.reverseRecOn with
  | nil => rfl
  | append_singleton ds d ih =>
    rw [List.length_append,List.length_singleton] at h
    have hroom := inputChannelNumber_room (digitValues ds) (by rw [digitValues,List.length_map]; omega)
      (digitKey d)
    rw [digitKey_toNat] at hroom
    rw [pressDigits_concat,ih (by omega)]
    simpa [digitValues] using hroom

theorem pressDigits_overfull (ds : List (Fin 10)) (d : Fin 10) (h : 3 ≤ ds.length) :
    pressDigits .reset (ds++[d]) = .holding 3 [(d.val : ℤ)] := by
  have hfull : ∃ digits, pressDigits .reset ds = .holding 3 digits := by
    induction ds using List.reverseRecOn with
    | nil => simp at h
    | append_singleton ds e ih =>
      rw [List.length_append,List.length_singleton] at h
      by_cases hlen : ds.length = 2
      · refine ⟨digitValues (ds++[e]),?_⟩
        rw [pressDigits_short (ds++[e]) (by simp [hlen]),List.length_append,hlen]
        rfl
      · obtain ⟨digits,hdigits⟩ := ih (by omega)
        exact ⟨_,by rw [pressDigits_concat,hdigits,inputChannelNumber_full]⟩
  obtain ⟨digits,hdigits⟩ := hfull
  rw [pressDigits_concat,hdigits,inputChannelNumber_full,digitKey_toNat]

/-- The digits of the number being dialled: a fourth digit begins a new number, and
so does every third one after it. -/
def dialledDigits (ds : List (Fin 10)) : List (Fin 10) :=
  ds.drop (ds.length-((ds.length-1)%3+1))

def decimalValue (ds : List (Fin 10)) : ℤ := ds.foldl (fun v d => 10*v+d.val) 0

theorem dialledChannel_short (ds : List (Fin 10)) (hne : ds ≠ []) (h : ds.length ≤ 3) :
    dialledChannel (pressDigits .reset ds) = some (decimalValue (dialledDigits ds)) := by
  rw [pressDigits_short ds h]
  match ds, hne, h with
  | [a], _, _ => simp [KeyBuffer.holding,dialledChannel,dialledDigits,decimalValue,digitValues]
  | [a,b], _, _ => simp [KeyBuffer.holding,dialledChannel,dialledDigits,decimalValue,digitValues]
  | [a,b,c], _, _ =>
    simp [KeyBuffer.holding,dialledChannel,dialledDigits,decimalValue,digitValues]
    ring

theorem dialledChannel_overfull (ds : List (Fin 10)) (d : Fin 10) (h : 3 ≤ ds.length) :
    dialledChannel (pressDigits .reset (ds++[d])) = some (100*(d.val : ℤ)) := by
  rw [pressDigits_overfull ds d h]
  simp [KeyBuffer.holding,dialledChannel]

theorem dialledDigits_concat (ds : List (Fin 10)) (d : Fin 10) :
    ∃ es, es.length ≤ 2 ∧ dialledDigits (ds++[d]) = es++[d] := by
  have hle : (ds++[d]).length-(((ds++[d]).length-1)%3+1) ≤ ds.length := by
    rw [List.length_append,List.length_singleton]
    omega
  refine ⟨ds.drop ((ds++[d]).length-(((ds++[d]).length-1)%3+1)),?_,?_⟩
  · rw [List.length_drop,List.length_append,List.length_singleton]
    omega
  · rw [dialledDigits,List.drop_append_of_le_length hle]

theorem decimalValue_eq_hundred_iff (es : List (Fin 10)) (h : es.length ≤ 2) (d : Fin 10) :
    decimalValue (es++[d]) = 100*(d.val : ℤ) ↔ ∀ e ∈ es++[d], e = 0 := by
  have hd := d.isLt
  match es, h with
  | [], _ =>
    simp only [decimalValue,List.nil_append,List.foldl_cons,List.foldl_nil,List.mem_singleton,
      forall_eq]
    rw [Fin.ext_iff]
    change 10*0+(d.val : ℤ) = _ ↔ d.val = 0
    omega
  | [a], _ =>
    have ha := a.isLt
    simp only [decimalValue,List.cons_append,List.nil_append,List.foldl_cons,List.foldl_nil,
      List.mem_cons,List.not_mem_nil,or_false,forall_eq_or_imp,forall_eq]
    rw [Fin.ext_iff,Fin.ext_iff]
    change 10*(10*0+(a.val : ℤ))+d.val = _ ↔ a.val = 0 ∧ d.val = 0
    omega
  | [a,b], _ =>
    have ha := a.isLt
    have hb := b.isLt
    simp only [decimalValue,List.cons_append,List.nil_append,List.foldl_cons,List.foldl_nil,
      List.mem_cons,List.not_mem_nil,or_false,forall_eq_or_imp,forall_eq]
    rw [Fin.ext_iff,Fin.ext_iff,Fin.ext_iff]
    change 10*(10*(10*0+(a.val : ℤ))+b.val)+d.val = _ ↔ a.val = 0 ∧ b.val = 0 ∧ d.val = 0
    omega

/-- Dialling gives the number that was typed exactly if there were at most three
digits, or the digits that count are all zero.  The buffer is always reset. -/
theorem dialled_channel_typed_iff (ds : List (Fin 10)) (hne : ds ≠ []) :
    ((changeChannel (pressDigits .reset ds)).1 = some (decimalValue (dialledDigits ds)) ∧
      (changeChannel (pressDigits .reset ds)).2 = .reset) ↔
    ds.length ≤ 3 ∨ ∀ d ∈ dialledDigits ds, d = 0 := by
  have hreset : (changeChannel (pressDigits .reset ds)).2 = .reset := rfl
  rw [and_iff_left hreset]
  change dialledChannel (pressDigits .reset ds) = _ ↔ _
  by_cases hshort : ds.length ≤ 3
  · rw [dialledChannel_short ds hne hshort]
    simp [hshort]
  · obtain ⟨es,d,rfl⟩ : ∃ es d, ds = es++[d] :=
      ⟨ds.dropLast,ds.getLast hne,(List.dropLast_append_getLast hne).symm⟩
    rw [List.length_append,List.length_singleton] at hshort
    obtain ⟨fs,hfs,hdigits⟩ := dialledDigits_concat es d
    rw [dialledChannel_overfull es d (by omega),hdigits,Option.some.injEq,eq_comm,
      decimalValue_eq_hundred_iff fs hfs d]
    simp [hshort]

theorem dialled_four_zeros :
    (changeChannel (pressDigits .reset [1,2,3,0])).1 = some 0 ∧
      (changeChannel (pressDigits .reset [1,2,3,0])).2 = .reset :=
  (dialled_channel_typed_iff [1,2,3,0] (by decide)).mpr (.inr (by decide))

/-- After 1, 2, 3 the digit 4 should begin the number 4; the code dials 400. -/
theorem fourth_digit_dials_hundreds :
    decimalValue (dialledDigits [1,2,3,4]) = 4 ∧
      (changeChannel (pressDigits .reset [1,2,3,4])).1 = some 400 ∧
      (changeChannel (pressDigits .reset [1,2,3,4])).1 ≠
        some (decimalValue (dialledDigits [1,2,3,4])) := by
  decide

/-- One start of `changeChannel`: the counter it finds, the channel it passes on
and the presses whose digits it uses. -/
structure Notification where
  keysPressed : ℤ
  channel : Option ℤ
  used : List ℕ
  deriving DecidableEq

/-- The key timer with the buffer.  `pending` counts expiries whose notification
has not run.  The other fields are history: the keys pressed so far, which of them
(by position) are in the buffer, which were replaced, and the notifications. -/
structure Dial where
  buffer : KeyBuffer
  armed : Bool
  pending : ℕ
  pressed : List UInt16
  held : List ℕ
  replaced : List ℕ
  notifications : List Notification
  deriving DecidableEq

inductive DialEvent
  | press (key : UInt16)
  | expiry
  | notify
  deriving DecidableEq

namespace Dial

def initial : Dial := ⟨.reset,false,0,[],[],[],[]⟩

/-- One atomic step.  A press re-arms the timer before it records the digit, an
expiry needs an armed timer, and a notification needs an earlier expiry. -/
def step (s : Dial) : DialEvent → Option Dial
  | .press key =>
    some { s with
      buffer := inputChannelNumber s.buffer key
      armed := true
      pressed := s.pressed++[key]
      held := if s.buffer.keysPressed = 3 then [s.pressed.length]
        else s.held++[s.pressed.length]
      replaced := if s.buffer.keysPressed = 3 then s.replaced++s.held else s.replaced }
  | .expiry =>
    if s.armed then some { s with armed := false, pending := s.pending+1 } else none
  | .notify =>
    if 0 < s.pending then
      some { s with
        buffer := (changeChannel s.buffer).2
        pending := s.pending-1
        held := []
        notifications := s.notifications++
          [⟨s.buffer.keysPressed,(changeChannel s.buffer).1,s.held⟩] }
    else none

theorem step_cases {s s' : Dial} {e : DialEvent} (h : s.step e = some s') :
    (∃ key, e = .press key ∧ s' = { s with
        buffer := inputChannelNumber s.buffer key
        armed := true
        pressed := s.pressed++[key]
        held := if s.buffer.keysPressed = 3 then [s.pressed.length]
          else s.held++[s.pressed.length]
        replaced := if s.buffer.keysPressed = 3 then s.replaced++s.held else s.replaced }) ∨
    (e = .expiry ∧ s.armed = true ∧ s' = { s with armed := false, pending := s.pending+1 }) ∨
    (e = .notify ∧ 0 < s.pending ∧ s' = { s with
        buffer := .reset
        pending := s.pending-1
        held := []
        notifications := s.notifications++
          [⟨s.buffer.keysPressed,dialledChannel s.buffer,s.held⟩] }) := by
  cases e with
  | press key => exact .inl ⟨key,rfl,(Option.some.inj h).symm⟩
  | expiry =>
    rw [step] at h
    split at h
    · rename_i harmed
      exact .inr (.inl ⟨rfl,harmed,(Option.some.inj h).symm⟩)
    · cases h
  | notify =>
    rw [step] at h
    split at h
    · rename_i hpending
      exact .inr (.inr ⟨rfl,hpending,(Option.some.inj h).symm⟩)
    · cases h

def digit (pressed : List UInt16) (i : ℕ) : ℤ := ((pressed.getD i 0).toNat : ℤ)

/-- What holds in every interleaving.  The digits held are in the buffer in their
order, the counter is their number unless the buffer has been full, and each press
is accounted for exactly once. -/
structure Accounts (s : Dial) : Prop where
  counter : s.buffer.keysPressed = s.held.length ∨ (s.buffer.keysPressed = 3 ∧ s.held.length = 1)
  length_le : s.held.length ≤ 3
  held_lt : ∀ i ∈ s.held, i < s.pressed.length
  buffer_eq : s.buffer = .holding s.buffer.keysPressed (s.held.map (digit s.pressed))
  once : (s.notifications.flatMap Notification.used++s.replaced++s.held).Perm
    (List.range s.pressed.length)
  waiting : s.held ≠ [] → s.armed = true ∨ 0 < s.pending

theorem map_digit_append {pressed : List UInt16} {held : List ℕ} (key : UInt16)
    (h : ∀ i ∈ held, i < pressed.length) :
    held.map (digit (pressed++[key])) = held.map (digit pressed) := by
  refine List.map_congr_left fun i hi => ?_
  rw [digit,digit,List.getD_eq_getElem?_getD,List.getElem?_append_left (h i hi),
    List.getD_eq_getElem?_getD]

theorem digit_append_length (pressed : List UInt16) (key : UInt16) :
    digit (pressed++[key]) pressed.length = (key.toNat : ℤ) := by
  simp [digit]

theorem initial_accounts : Accounts initial where
  counter := .inl rfl
  length_le := by simp [initial]
  held_lt := by simp [initial]
  buffer_eq := rfl
  once := List.Perm.refl _
  waiting := by simp [initial]

theorem Accounts.press {s : Dial} (h : s.Accounts) (key : UInt16) {s' : Dial}
    (hs : s.step (.press key) = some s') : s'.Accounts := by
  have hrange : List.range (s.pressed++[key]).length =
      List.range s.pressed.length++[s.pressed.length] := by
    rw [List.length_append,List.length_singleton,List.range_succ]
  rcases step_cases hs with ⟨k,hk,rfl⟩ | ⟨hk,-⟩ | ⟨hk,-⟩
  · cases hk
    by_cases hfull : s.buffer.keysPressed = 3
    · -- the digits held are replaced by the new one
      have hbuffer : inputChannelNumber s.buffer key = .holding 3 [(key.toNat : ℤ)] := by
        rw [h.buffer_eq,hfull]
        exact inputChannelNumber_full _ key
      refine ⟨?_,?_,?_,?_,?_,fun _ => .inl rfl⟩
      · simp [hfull,hbuffer]
      · simp [hfull]
      · simp [hfull]
      · simp only [hfull,if_true,List.map_cons,List.map_nil,digit_append_length]
        rw [hbuffer]
        rfl
      · simp only [hfull,if_true]
        rw [hrange]
        exact (by simpa [List.append_assoc] using h.once : List.Perm _ _).append_right _
    · have hlen : s.buffer.keysPressed = s.held.length := by
        rcases h.counter with hc | hc
        · exact hc
        · exact absurd hc.1 hfull
      have hlt : s.held.length < 3 := by
        have := h.length_le
        omega
      have hbuffer : inputChannelNumber s.buffer key =
          .holding (s.held.length+1) (s.held.map (digit s.pressed)++[(key.toNat : ℤ)]) := by
        have hroom := inputChannelNumber_room (s.held.map (digit s.pressed))
          (by rw [List.length_map]; exact hlt) key
        rw [List.length_map] at hroom
        rw [h.buffer_eq,hlen,hroom]
      refine ⟨?_,?_,?_,?_,?_,fun _ => .inl rfl⟩
      · simp [hfull,hbuffer]
      · simp only [hfull,if_false,List.length_append,List.length_singleton]
        omega
      · simp only [hfull,if_false]
        intro i hi
        rcases List.mem_append.mp hi with hi | hi
        · have := h.held_lt i hi
          simp only [List.length_append]
          omega
        · rw [List.mem_singleton] at hi
          simp [hi]
      · simp only [hfull,if_false,List.map_append,List.map_cons,List.map_nil,digit_append_length]
        rw [map_digit_append key h.held_lt,hbuffer]
        rfl
      · simp only [hfull,if_false]
        rw [hrange,← List.append_assoc]
        exact h.once.append_right _
  · cases hk
  · cases hk

theorem Accounts.step {s s' : Dial} (h : s.Accounts) (e : DialEvent)
    (hs : s.step e = some s') : s'.Accounts := by
  cases e with
  | press key => exact h.press key hs
  | expiry =>
    rcases step_cases hs with ⟨k,hk,-⟩ | ⟨-,-,rfl⟩ | ⟨hk,-⟩
    · cases hk
    · exact ⟨h.counter,h.length_le,h.held_lt,h.buffer_eq,h.once,fun _ => .inr (Nat.succ_pos _)⟩
    · cases hk
  | notify =>
    rcases step_cases hs with ⟨k,hk,-⟩ | ⟨hk,-⟩ | ⟨-,-,rfl⟩
    · cases hk
    · cases hk
    · refine ⟨.inl rfl,by simp,by simp,rfl,?_,by simp⟩
      -- the digits held move into the notification
      refine List.Perm.trans ?_ h.once
      simp only [List.flatMap_append,List.flatMap_cons,List.flatMap_nil,List.append_nil,
        List.append_assoc]
      exact (List.perm_append_comm).append_left _

/-- A digit is pressed only when no notification is waiting to run. -/
def Calm (s : Dial) : DialEvent → Prop
  | .press _ => s.pending = 0
  | .expiry => True
  | .notify => True

/-- Invariant of the calm runs: at most one of timer and notification is out, and
one of them is exactly while there are digits. -/
structure Paired (s : Dial) : Prop where
  armed_pending : s.armed = true → s.pending = 0
  pending_le : s.pending ≤ 1
  digits_iff : (s.armed = true ∨ s.pending = 1) ↔ 1 ≤ s.buffer.keysPressed
  numbers : ∀ n ∈ s.notifications,
    (n.keysPressed = 1 ∨ n.keysPressed = 2 ∨ n.keysPressed = 3) ∧ n.channel ≠ none

theorem Accounts.keysPressed_mem {s : Dial} (h : s.Accounts) :
    0 ≤ s.buffer.keysPressed ∧ s.buffer.keysPressed ≤ 3 := by
  have hlen := h.length_le
  rcases h.counter with hc | hc
  · omega
  · omega

theorem dialledChannel_ne_none {b : KeyBuffer} (h₁ : 1 ≤ b.keysPressed) (h₃ : b.keysPressed ≤ 3) :
    dialledChannel b ≠ none := by
  rw [dialledChannel]
  split_ifs
  · exact Option.some_ne_none _
  · exact Option.some_ne_none _
  · exact Option.some_ne_none _
  · omega

theorem inputChannelNumber_pos {b : KeyBuffer} (h : 0 ≤ b.keysPressed ∧ b.keysPressed ≤ 3)
    (key : UInt16) : 1 ≤ (inputChannelNumber b key).keysPressed := by
  rw [inputChannelNumber]
  split_ifs
  · change 1 ≤ b.keysPressed+1
    omega
  · change 1 ≤ b.keysPressed+1
    omega
  · change 1 ≤ b.keysPressed+1
    omega
  · change 1 ≤ b.keysPressed
    omega
  · omega

theorem Paired.step {s s' : Dial} (hacc : s.Accounts) (h : s.Paired) (e : DialEvent)
    (hcalm : s.Calm e) (hs : s.step e = some s') : s'.Paired := by
  have hkeys := hacc.keysPressed_mem
  rcases step_cases hs with ⟨key,rfl,rfl⟩ | ⟨-,harmed,rfl⟩ | ⟨-,hpending,rfl⟩
  · have hzero : s.pending = 0 := hcalm
    refine ⟨fun _ => hzero,by simp [hzero],?_,h.numbers⟩
    simp only [true_or,true_iff]
    exact inputChannelNumber_pos hkeys key
  · have hzero := h.armed_pending harmed
    refine ⟨by simp,by simp [hzero],?_,h.numbers⟩
    have hdigits := h.digits_iff.mp (.inl harmed)
    simp [hzero,hdigits]
  · have hone : s.pending = 1 := by
      have := h.pending_le
      omega
    have hdigits := h.digits_iff.mp (.inr hone)
    have harmed : s.armed = false := by
      by_contra hne
      have := h.armed_pending (by simpa using hne)
      omega
    refine ⟨by simp [harmed],by simp [hone],by simp [harmed,hone,KeyBuffer.reset],?_⟩
    intro n hn
    rcases List.mem_append.mp hn with hn | hn
    · exact h.numbers n hn
    · rw [List.mem_singleton] at hn
      subst hn
      exact ⟨by simp only; omega,dialledChannel_ne_none hdigits hkeys.2⟩

/-- What the notifications owe the user: each had a number to act on, and each
digit went into one notification, was replaced, or still waits for one to come. -/
structure Served (s : Dial) : Prop where
  numbers : ∀ n ∈ s.notifications,
    (n.keysPressed = 1 ∨ n.keysPressed = 2 ∨ n.keysPressed = 3) ∧ n.channel ≠ none
  once : (s.notifications.flatMap Notification.used++s.replaced++s.held).Perm
    (List.range s.pressed.length)
  waiting : s.held ≠ [] → s.armed = true ∨ 0 < s.pending

theorem calm_invariant {s : Dial} (h : Reach Dial.step Calm initial s) : s.Accounts ∧ s.Paired := by
  refine h.invariant (I := fun s => s.Accounts ∧ s.Paired) ⟨initial_accounts,?_⟩ ?_
  · exact ⟨by simp [initial],by simp [initial],by simp [initial,KeyBuffer.reset],by simp [initial]⟩
  · intro s s' e hs hcalm hstep
    exact ⟨hs.1.step e hstep,hs.2.step hs.1 e hcalm hstep⟩

/-- In every interleaving whose digits come while no notification waits, each
notification has a number to act on.  One digit too early is enough to lose that:
whatever came before, its notification, expiry and notification can follow, and the
second of them passes the uninitialised variable. -/
theorem notifications_have_number (s : Dial) :
    (Reach Dial.step Calm initial s → s.Served) ∧
    ∀ key : UInt16, ¬ s.Calm (.press key) →
      ∃ s', follow Dial.step s [.press key,.notify,.expiry,.notify] = some s' ∧
        ∃ n ∈ s'.notifications, n.keysPressed = 0 ∧ n.channel = none := by
  constructor
  · intro hs
    obtain ⟨hacc,hpaired⟩ := calm_invariant hs
    exact ⟨hpaired.numbers,hacc.once,hacc.waiting⟩
  · intro key hpress
    have hpending : 0 < s.pending := Nat.pos_of_ne_zero hpress
    have hfollow : ∃ s', follow Dial.step s [.press key,.notify,.expiry,.notify] = some s' ∧
        (⟨0,none,[]⟩ : Notification) ∈ s'.notifications := by
      simp [follow,Dial.step,hpending,changeChannel,dialledChannel]
    obtain ⟨s',hs',hmem⟩ := hfollow
    exact ⟨s',hs',_,hmem,rfl,rfl⟩

theorem seven_served :
    ∃ s, Reach Dial.step Calm initial s ∧ s.notifications = [⟨1,some 7,[0]⟩] ∧ s.Served := by
  have hpress : Reach Dial.step Calm initial _ := Reach.start.next (.press 7) rfl rfl
  have hexpiry : Reach Dial.step Calm initial _ := hpress.next .expiry trivial rfl
  have hnotify : Reach Dial.step Calm initial _ := hexpiry.next .notify trivial rfl
  exact ⟨_,hnotify,rfl,(notifications_have_number _).1 hnotify⟩

theorem early_digit_loses_number :
    ∃ s, Reach Dial.step Anything initial s ∧ ¬ s.Served ∧
      s.notifications = [⟨2,some 12,[0,1]⟩,⟨0,none,[]⟩] := by
  obtain ⟨s,hs⟩ : ∃ s, follow Dial.step initial
      [.press 1,.expiry,.press 2,.notify,.expiry,.notify] = some s := ⟨_,rfl⟩
  have hnotifications : s.notifications = [⟨2,some 12,[0,1]⟩,⟨0,none,[]⟩] := by
    cases hs
    decide
  refine ⟨s,Reach.start.of_follow _ hs,?_,hnotifications⟩
  intro hserved
  have hlast := hserved.numbers ⟨0,none,[]⟩ (by simp [hnotifications])
  exact hlast.2 rfl

end Dial

end TvApp
