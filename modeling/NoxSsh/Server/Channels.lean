/-
# Server.Channels — the server follows the machine

Every run of `serve_one` can be told as a path of the channel machine over what
can be seen in its trace, and how the run ended says where the path ended
(`served_path`).  The handlers come first, each as a triple from the phase in
which its packet was heard.
-/
import NoxSsh.Server.Machine
import NoxSsh.Server.Gate

namespace NoxSsh.Server

open Theory Proc Wire Transport

set_option autoImplicit false

/-! ## Steps that cannot be seen -/

/-- An event that does not concern the channel. -/
def Dull (e : Event) : Prop := loud e = false

@[simp] theorem sights_nil : sights [] = [] := rfl

@[simp] theorem sights_append (a b : List (Event × Server)) : sights (a ++ b) = sights a ++ sights b := by
  simp [sights]

theorem sights_loud {e : Event} {s : Server} (heard : loud e = true) :
    sights [(e, s)] = [(e, channel s, rekeyDue s)] := by
  simp [sights, sight, heard]

theorem sights_dull {new : List (Event × Server)} (dull : ∀ e ∈ new, Dull e.1) : sights new = [] := by
  refine List.filterMap_eq_nil_iff.2 fun e mem => ?_
  have quiet : loud e.1 = false := dull e mem
  rw [sight, quiet]
  rfl

theorem background_dull : Background Dull :=
  ⟨⟨fun _ => rfl, rfl, rfl⟩, fun _ _ => rfl, fun _ _ => rfl⟩

theorem onChannel_head {payload : List UInt8} {number : UInt8} (heads : payload.head? = some number) :
    onChannel payload = (91 ≤ number && number ≤ 100) := by
  rw [onChannel, heads]

theorem speaks_dull {number : UInt8} (other : (91 ≤ number && number ≤ 100) = false) : Speaks Dull number := by
  intro payload heads
  have off : onChannel payload = false := by rw [onChannel_head heads, other]
  exact ⟨off, off⟩

theorem passive_channel : Passive channel := by
  apply Passive.of_fields <;> intros <;> rfl

theorem unkeyed_channel : Unkeyed channel := by
  constructor <;> (try apply Passive.of_fields) <;> intros <;> rfl

/-- `h'` shows the same channel as `h`, and nothing was seen in between. -/
def Unseen (h h' : Host Server) : Prop :=
  sights h'.trace = sights h.trace ∧ channel h'.self = channel h.self

theorem unseen_of_quiet {h h' : Host Server} (quiet : Quiet Dull channel h h') : Unseen h h' := by
  obtain ⟨same, new, grown, kept⟩ := quiet
  refine ⟨?_, same⟩
  rw [grown, sights_append, sights_dull fun e mem => (kept e mem).1, List.append_nil]

theorem Unseen.along {h h' : Host Server} (unseen : Unseen h h') (p : Phase) : Along channelMachine p h p h' :=
  along_quiet p unseen.1 unseen.2

/-! ## Messages that go out -/

/-- From `h` to `h'` a message went out, or the call for it failed. -/
def Spoke (payload : List UInt8) (all : Bool) (h h' : Host Server) : Prop :=
  ∃ seen, Says (channel h.self) payload all seen ∧ sights h'.trace = sights h.trace ++ seen ∧
    channel h'.self = channel h.self

section Spoken

variable {noxtls : Noxtls} {env : Env}

variable (noxtls env) in
theorem sendPacket_spoke (payload : List UInt8) (on : onChannel payload = true) (h : Host Server) :
    (∃ h', (sendPacket noxtls env payload).run h = (.ok (), h') ∧ Spoke payload true h h') ∨
      ∃ e h', (sendPacket noxtls env payload).run h = (.err e, h') ∧ Spoke payload false h h' := by
  have some : payload ≠ [] := by
    rintro rfl
    simp [onChannel] at on
  rw [sendPacket, ensure_bind_pos some, log_bind_run, ask_bind_run, modify_bind_run]
  have quiet : Always (Quiet Dull channel) (sendPacketWith noxtls sendSide (fillRandom env) (sendAll env)
      (writeSealed env) countSent payload) :=
    always_sealing background_dull passive_channel payload
  have back : Settles (sendPacketWith noxtls sendSide (fillRandom env) (sendAll env)
      (writeSealed env) countSent payload) :=
    settles_sendPacketWith settles_fillRandom settles_sendAll
      (fun enc mac => settles_bind (settles_sendAll enc) fun _ => settles_sendAll mac) payload
  dsimp only
  obtain ⟨h₁, armed⟩ : ∃ h₁ : Host Server, h₁ = ⟨armSend (env.clock h.tick) h.self, h.tick + 1, h.inbox,
    h.trace ++ [(.sending payload, h.self)]⟩ := ⟨_, rfl⟩
  rw [← armed]
  have unseen := unseen_of_quiet (quiet h₁)
  have answered := back h₁
  have called : sights h₁.trace = sights h.trace ++ [(.sending payload, channel h.self, rekeyDue h.self)] := by
    rw [armed, sights_append, sights_loud (show loud (.sending payload) = true from on)]
  have same : channel h₁.self = channel h.self := by
    rw [armed]
    exact passive_channel.armSend _ _
  rw [bind_run]
  revert unseen answered
  rcases (sendPacketWith noxtls sendSide (fillRandom env) (sendAll env) (writeSealed env) countSent
    payload).run h₁ with ⟨o, h₂⟩
  intro unseen answered
  cases o with
  | ok _ =>
      refine .inl ⟨_, rfl, _, .sent (rekeyDue h.self) (rekeyDue h₂.self), ?_, ?_⟩
      · rw [sights_append, unseen.1, called, sights_loud (show loud (.sent payload) = true from on),
          unseen.2, same, List.append_assoc]
        rfl
      · exact unseen.2.trans same
  | err e =>
      exact .inr ⟨e, h₂, rfl, _, .failed (rekeyDue h.self), unseen.1.trans called, unseen.2.trans same⟩
  | stuck => exact absurd rfl answered

/-- The two ways a call for a message can end, under another code. -/
theorem failAs_spoke {m : Prog Server Unit} {payload : List UInt8} {h : Host Server} (e : NetnoxReturn)
    (spoke : (∃ h', m.run h = (.ok (), h') ∧ Spoke payload true h h') ∨
      ∃ e h', m.run h = (.err e, h') ∧ Spoke payload false h h') :
    (∃ h', (failAs e m).run h = (.ok (), h') ∧ Spoke payload true h h') ∨
      ∃ h', (failAs e m).run h = (.err e, h') ∧ Spoke payload false h h' := by
  rcases spoke with ⟨h', ran, spoke⟩ | ⟨e', h', ran, spoke⟩
  · exact .inl ⟨h', failAs_ok ran, spoke⟩
  · exact .inr ⟨h', failAs_err ran, spoke⟩

theorem sendChannelMessage_run {max : Nat} (fits : 5 ≤ max) (number : UInt8) (h : Host Server) :
    (sendChannelMessage noxtls env max number).run h =
      (sendPacket noxtls env (channelMessage number h.self.remoteChannelId)).run h := by
  rw [sendChannelMessage, self_bind_run, sendBuilt, payloadAppendU8_some (by simp; omega),
    Option.bind_eq_bind, Option.bind_some, payloadAppendU32_some (by simp; omega)]
  rfl

variable (noxtls env) in
theorem sendChannelMessage_spoke {max : Nat} (fits : 5 ≤ max) (number : UInt8)
    (on : (91 ≤ number && number ≤ 100) = true) (h : Host Server) :
    (∃ h', (sendChannelMessage noxtls env max number).run h = (.ok (), h') ∧
        Spoke (channelMessage number h.self.remoteChannelId) true h h') ∨
      ∃ e h', (sendChannelMessage noxtls env max number).run h = (.err e, h') ∧
        Spoke (channelMessage number h.self.remoteChannelId) false h h' := by
  rw [sendChannelMessage_run fits]
  exact sendPacket_spoke _ _ _ (by rw [onChannel_head rfl, on]) h

end Spoken

/-! ## What the handlers read -/

section Readers

variable {p : List UInt8} {rest : Mem}

/-- A view that lies inside the payload does not show what stands behind it. -/
theorem view_memOf (rest' : Mem) {off off' : Nat} {v : View}
    (read : payloadReadStringView (memOf p rest) p.length off = some (v, off'))
    (short : off + (4 + v.len) < 4294967296) : v.bytes (memOf p rest) = v.bytes (memOf p rest') := by
  obtain ⟨start, next, inside, -⟩ := payloadReadStringView_some read short
  rw [View.bytes, View.bytes, start, slice_memOf p rest (by omega), slice_memOf p rest' (by omega)]

theorem view_is_memOf (rest' : Mem) {off off' : Nat} {v : View} {word : List UInt8}
    (read : payloadReadStringView (memOf p rest) p.length off = some (v, off'))
    (short : off + (4 + word.length) < 4294967296) :
    v.bytes (memOf p rest) = word ↔ v.bytes (memOf p rest') = word := by
  by_cases length : v.len = word.length
  · rw [view_memOf rest' read (by omega)]
  · have other : ∀ m, v.bytes m ≠ word := by
      intro m is
      rw [← is, View.bytes, length_slice] at length
      exact length rfl
    exact ⟨fun is => absurd is (other _), fun is => absurd is (other _)⟩

theorem readU32_le {m : Mem} {len off n off' : Nat} (read : payloadReadU32 m len off = some (n, off')) :
    off' ≤ len := by
  rw [payloadReadU32] at read
  split at read
  · simp at read
  · simp only [Option.some.injEq, Prod.mk.injEq] at read
    omega

theorem readU32_lt {m : Mem} {len off n off' : Nat} (read : payloadReadU32 m len off = some (n, off')) :
    n < 4294967296 := by
  rw [payloadReadU32] at read
  split at read
  · simp at read
  · simp only [Option.some.injEq, Prod.mk.injEq] at read
    rw [← read.1]
    simpa using beNat_lt (slice m off 4)

/-- What CHANNEL_OPEN asks for does not depend on what stands behind the packet. -/
theorem readOpenRequest_memOf (rest : Mem) (short : p.length ≤ maxPacketLen) :
    readOpenRequest (memOf p rest) p.length = readOpenRequest (contents p) p.length := by
  have small : p.length + 4 < 4294967296 := by
    unfold maxPacketLen at short
    omega
  unfold readOpenRequest contents
  rw [payloadReadStringView_memOf rest (fun _ => 0) (by decide)]
  cases read : payloadReadStringView (memOf p fun _ => 0) p.length 1 with
  | none => rfl
  | some got =>
      obtain ⟨typ, off⟩ := got
      have inside := payloadReadStringView_le read
      have same := @view_is_memOf _ _ rest _ _ _ (ascii "session") read (by decide)
      simp only [Option.bind_eq_bind, Option.bind_some]
      rw [payloadReadU32_memOf rest (fun _ => 0) (by omega)]
      cases first : payloadReadU32 (memOf p fun _ => 0) p.length off with
      | none => rfl
      | some got =>
          obtain ⟨sender, off₁⟩ := got
          have inside₁ := readU32_le first
          simp only [Option.bind_some]
          rw [payloadReadU32_memOf rest (fun _ => 0) (by omega)]
          cases second : payloadReadU32 (memOf p fun _ => 0) p.length off₁ with
          | none => rfl
          | some got =>
              obtain ⟨window, off₂⟩ := got
              have inside₂ := readU32_le second
              simp only [Option.bind_some]
              rw [payloadReadU32_memOf rest (fun _ => 0) (by omega)]
              simp only [require, same]

theorem ends_iff (rest : Mem) (s : Server) :
    (p.length = 5 ∧ (p.head? = some 96 ∨ p.head? = some 97) ∧
      (payloadReadU32 (memOf p rest) p.length 1).map Prod.fst = some s.localChannelId) ↔
      ends (channel s) p = true := by
  rw [payloadReadU32_memOf rest (fun _ => 0) (by decide)]
  rw [ends, Bool.and_eq_true, Bool.and_eq_true, Bool.or_eq_true, decide_eq_true_iff, decide_eq_true_iff,
    decide_eq_true_iff, decide_eq_true_iff, and_assoc]
  rfl

theorem adjustedWindow_some {s : Server} {window : Nat} (number : p.head? = some 93)
    (is : adjustedWindow s p (memOf p rest) = some window) :
    window = s.remoteWindowSize + creditOf (channel s) p ∧
      creditOf (channel s) p ≤ 4294967295 - s.remoteWindowSize := by
  rw [adjustedWindow, payloadReadU32_memOf rest (fun _ => 0) (by decide)] at is
  rw [creditOf, if_pos number, contents]
  cases first : payloadReadU32 (memOf p fun _ => 0) p.length 1 with
  | none =>
      rw [first] at is
      simp at is
  | some got =>
      obtain ⟨id, off⟩ := got
      obtain ⟨rfl, -, -⟩ := payloadReadU32_some first (by decide)
      rw [first] at is
      dsimp only at is ⊢
      rw [payloadReadU32_memOf rest (fun _ => 0) (by decide)] at is
      cases second : payloadReadU32 (memOf p fun _ => 0) p.length (1 + 4) with
      | none =>
          rw [second] at is
          simp at is
      | some got =>
          obtain ⟨amount, off⟩ := got
          rw [second] at is
          dsimp only at is ⊢
          split at is
          · simp at is
          · rename_i fine
            rw [not_or, not_not] at fine
            obtain ⟨names, fits⟩ := fine
            rw [show (channel s).localChannelId = s.localChannelId from rfl, if_pos names]
            simp only [Option.some.injEq] at is
            omega

theorem sessionData_some {s : Server} {data : List UInt8} (number : p.head? = some 94)
    (short : p.length ≤ maxPacketLen) (is : sessionData s p (memOf p rest) = some data) :
    dataOf (channel s) p = some data := by
  unfold maxPacketLen at short
  rw [sessionData, payloadReadU32_memOf rest (fun _ => 0) (by decide)] at is
  rw [dataOf, if_pos number, contents]
  cases first : payloadReadU32 (memOf p fun _ => 0) p.length 1 with
  | none =>
      rw [first] at is
      simp at is
  | some got =>
      obtain ⟨id, off⟩ := got
      obtain ⟨rfl, -, -⟩ := payloadReadU32_some first (by decide)
      rw [first] at is
      dsimp only at is ⊢
      rw [payloadReadStringView_memOf rest (fun _ => 0) (by decide)] at is
      cases second : payloadReadStringView (memOf p fun _ => 0) p.length (1 + 4) with
      | none =>
          rw [second] at is
          simp at is
      | some got =>
          obtain ⟨view, off⟩ := got
          rw [second] at is
          dsimp only at is ⊢
          split at is
          · simp at is
          · rename_i fine
            rw [if_neg (show ¬ (id ≠ (channel s).localChannelId ∨ off ≠ p.length ∨
              view.len > (channel s).localWindowSize) from fine)]
            rw [not_or, not_or, not_not, not_not] at fine
            -- a string that ends with the packet did not wrap
            have whole : 5 + (4 + view.len) < 4294967296 := by
              rw [payloadReadStringView] at second
              split at second
              · simp at second
              · rename_i strLen next header
                have below := readU32_lt header
                obtain ⟨rfl, inside, -⟩ := payloadReadU32_some header (by decide)
                split at second
                · simp at second
                · simp only [Option.some.injEq, Prod.mk.injEq] at second
                  obtain ⟨rfl, next⟩ := second
                  have ended := fine.2.1
                  rw [← next, wrap32] at ended
                  dsimp only
                  omega
            rw [← is]
            exact congrArg some (@view_memOf _ (fun _ => 0) rest _ _ _ second whole)

end Readers

/-! ## Handlers of the serve loop -/

theorem asks_other {c : Channel} {p : List UInt8} (other : p.head? ≠ some 98) : asks c p = false := by
  simp [asks, replyByteAt, other]

theorem ends_other {c : Channel} {p : List UInt8} (notEof : p.head? ≠ some 96) (notClose : p.head? ≠ some 97) :
    ends c p = false := by
  simp [ends, notEof, notClose]

/-- How a handler that returns nothing ends. -/
def Handled (d : Nat) : Outcome NetnoxReturn Unit → Phase → Host Server → Prop
  | .ok _, phase, _ => phase = .serve d
  | .err _, phase, _ => phase = .over true
  | .stuck, phase, _ => Waiting phase

/-- How a handler that returns the close deadline ends. -/
def HandledWith : Outcome NetnoxReturn Nat → Phase → Host Server → Prop
  | .ok d, phase, _ => phase = .serve d
  | .err _, phase, _ => phase = .over true
  | .stuck, phase, _ => Waiting phase

section Handlers

variable {noxtls : Noxtls} {env : Env} {p : List UInt8} {rest : Mem} {d : Nat} {h h' : Host Server}

theorem along_pass {due : Bool} (unseen : Unseen h h') (quiet : asks (channel h.self) p = false)
    (other : ¬ (ends (channel h.self) p = true ∧ p.head? = some 97)) :
    Along channelMachine (.heard d p due) h (.serve d) h' :=
  (along_move (F := channelMachine) (p := .heard d p due) (t := h) (by simp) (.pass d p due _ quiet other)).trans
    (unseen.along _)

theorem along_drop {failed : Bool} (unseen : Unseen h h') (quiet : asks (channel h.self) p = false)
    (other : ends (channel h.self) p = false) :
    Along channelMachine (.heard d p false) h (.over failed) h' :=
  (along_move (F := channelMachine) (p := .heard d p false) (t := h) (by simp) (.drop d p failed _ quiet other)).trans
    (unseen.along _)

/-- A packet whose handler shows nothing. -/
theorem follows_unseen {m : Prog Server Unit} (quiet : Always (Quiet Dull channel) m) (back : Settles m)
    (silent : asks (channel h.self) p = false) (other : ends (channel h.self) p = false) :
    Follows channelMachine (.heard d p false) m (Handled d) h := by
  have unseen := unseen_of_quiet (quiet h)
  have answered := back h
  cases ran : m.run h with
  | mk o h' =>
      rw [ran] at unseen answered
      cases o with
      | ok _ => exact follows_of_run ran (along_pass unseen silent fun is => by simp [other] at is) rfl
      | err e => exact follows_of_run ran (along_drop unseen silent other) rfl
      | stuck => exact absurd rfl answered

theorem follows_globalRequest (number : p.head? = some 80) (m : Mem) :
    Follows channelMachine (.heard d p false) (failAs .failed (handleGlobalRequest noxtls env p m)) (Handled d) h :=
  follows_unseen (always_failAs _ (always_handleGlobalRequest background_dull passive_channel
    (speaks_dull (by decide)) p m)) (settles_failAs _ (settles_handleGlobalRequest _ _ p m))
    (asks_other (by simp [number])) (ends_other (by simp [number]) (by simp [number]))

theorem follows_serviceRequest (number : p.head? = some 5) (m : Mem) :
    Follows channelMachine (.heard d p false) (serviceRequest noxtls env p m) (Handled d) h :=
  follows_unseen (always_serviceRequest background_dull passive_channel (speaks_dull (by decide))
    (fun _ => rfl) (fun _ => rfl) p m) (settles_serviceRequest p m)
    (asks_other (by simp [number])) (ends_other (by simp [number]) (by simp [number]))

theorem loginChatter_dull : LoginChatter Dull channel where
  toBackground := background_dull
  toPassive := passive_channel
  failure := speaks_dull (by decide)
  success := speaks_dull (by decide)
  pkOk := speaks_dull (by decide)
  keyAllowed _ _ _ := rfl
  countAttempt _ := rfl
  setAuthenticated _ _ := rfl

theorem follows_userauthRequest (number : p.head? = some 50) (m : Mem) :
    Follows channelMachine (.heard d p false) (userauthRequest noxtls env p m) (Handled d) h :=
  follows_unseen (always_userauthRequest loginChatter_dull p m) (settles_userauthRequest p m)
    (asks_other (by simp [number])) (ends_other (by simp [number]) (by simp [number]))

/-! ### CHANNEL_OPEN -/

variable (noxtls env) in
/-- A CHANNEL_OPEN fails without a trace, or it can be read and its confirmation goes out. -/
theorem channelOpenRequest_run (m : Mem) :
    (∃ e, (channelOpenRequest noxtls env d p m).run h = (.err e, h)) ∨
    ∃ o, d = 0 ∧ readOpenRequest m p.length = some o ∧ 128 ≤ o.maxPacket ∧ h.self.channelOpen = false ∧
      (channelOpenRequest noxtls env d p m).run h =
        (failAs .failed (sendChannelOpenConfirmation noxtls env o.sender) >>= fun _ =>
          modify (setChannelOpen true)).run { h with self := setRemoteLimits o.window o.maxPacket h.self } := by
  rw [channelOpenRequest]
  by_cases fresh : d = 0
  swap
  · exact .inl ⟨_, ensure_bind_neg fresh _ _ h⟩
  rw [ensure_bind_pos fresh, self_bind_run]
  by_cases may : h.self.authenticated = true ∧ h.self.connectionServiceReady = true
  swap
  · exact .inl ⟨_, ensure_bind_neg may _ _ h⟩
  rw [ensure_bind_pos may, readOpenRequest]
  cases payloadReadStringView m p.length 1 with
  | none => exact .inl ⟨_, rfl⟩
  | some got =>
  obtain ⟨typ, off⟩ := got
  simp only [lift_some, pure_bind_run, Option.bind_eq_bind, Option.bind_some]
  cases payloadReadU32 m p.length off with
  | none => exact .inl ⟨_, rfl⟩
  | some got =>
  obtain ⟨sender, off⟩ := got
  simp only [lift_some, pure_bind_run, Option.bind_some]
  cases payloadReadU32 m p.length off with
  | none => exact .inl ⟨_, rfl⟩
  | some got =>
  obtain ⟨window, off⟩ := got
  simp only [lift_some, pure_bind_run, Option.bind_some]
  cases payloadReadU32 m p.length off with
  | none => exact .inl ⟨_, rfl⟩
  | some got =>
  obtain ⟨maxPacket, off⟩ := got
  simp only [lift_some, pure_bind_run, Option.bind_some]
  by_cases session : typ.bytes m = ascii "session"
  swap
  · exact .inl ⟨_, ensure_bind_neg session _ _ h⟩
  rw [ensure_bind_pos session]
  by_cases free : h.self.channelOpen = false ∧ 128 ≤ maxPacket
  swap
  · exact .inl ⟨_, ensure_bind_neg free _ _ h⟩
  rw [ensure_bind_pos free, modify_bind_run]
  exact .inr ⟨⟨sender, window, maxPacket⟩, fresh, by simp [require, session], free.2, free.1, rfl⟩

theorem sendChannelOpenConfirmation_run (sender : Nat) (h : Host Server) :
    (sendChannelOpenConfirmation noxtls env sender).run h =
      (sendPacket noxtls env (openConfirmation sender)).run { h with self := openChannel sender h.self } := by
  rw [sendChannelOpenConfirmation, modify_bind_run, self_bind_run]
  rfl

theorem channel_opened {o : OpenRequest} (large : 128 ≤ o.maxPacket) (s : Server) :
    channel (openChannel o.sender (setRemoteLimits o.window o.maxPacket s)) = (channel s).opened o := by
  simp only [channel, openChannel, setRemoteLimits, Channel.opened, if_pos (show o.maxPacket ≠ 0 by omega)]

theorem follows_channelOpenRequest (number : p.head? = some 90) (short : p.length ≤ maxPacketLen) :
    Follows channelMachine (.heard d p false) (channelOpenRequest noxtls env d p (memOf p rest)) (Handled d) h := by
  rcases channelOpenRequest_run noxtls env (p := p) (d := d) (h := h) (memOf p rest) with
    ⟨e, ran⟩ | ⟨o, rfl, is, large, closed, ran⟩
  · exact follows_of_run ran (along_drop ⟨rfl, rfl⟩ (asks_other (by simp [number]))
      (ends_other (by simp [number]) (by simp [number]))) rfl
  rw [readOpenRequest_memOf rest short] at is
  have asked : openRequestOf p = some o := by rw [openRequestOf, if_pos number, is]
  rw [bind_run, failAs_run, sendChannelOpenConfirmation_run] at ran
  have spoke := sendPacket_spoke noxtls env (openConfirmation o.sender) rfl
    { h with self := openChannel o.sender (setRemoteLimits o.window o.maxPacket h.self) }
  rcases spoke with ⟨h₁, sent, seen, spoken, observed, same⟩ | ⟨e, h₁, failed, seen, spoken, observed, same⟩
  · rw [channel_opened large] at spoken same
    rw [sent] at ran
    refine follows_of_run ran (along_move (F := channelMachine) observed ?_) rfl
    have opened : channel (setChannelOpen true h₁.self) = ((channel h.self).opened o).setOpen true := by
      rw [← same]
      rfl
    show Move _ _ (_, channel (setChannelOpen true h₁.self))
    rw [opened]
    exact .confirmOpen p o _ seen asked large closed spoken
  · rw [channel_opened large] at spoken same
    rw [failed] at ran
    refine follows_of_run ran (along_move (F := channelMachine) observed ?_) rfl
    show Move _ _ (_, channel h₁.self)
    rw [same]
    exact .unconfirmed p o _ seen asked large closed spoken

end Handlers

/-! ## The session -/

/-- Messages in a row went out, up to the first that failed. -/
def SpokeAll (payloads : List (List UInt8)) (all : Bool) (h h' : Host Server) : Prop :=
  ∃ seen, SaysAll (channel h.self) payloads all seen ∧ sights h'.trace = sights h.trace ++ seen ∧
    channel h'.self = channel h.self

theorem Spoke.failed {payload : List UInt8} {h h' : Host Server} (spoke : Spoke payload false h h')
    (more : List (List UInt8)) : SpokeAll (payload :: more) false h h' := by
  obtain ⟨seen, spoken, rest⟩ := spoke
  exact ⟨seen, .failed spoken, rest⟩

theorem Spoke.then {payload : List UInt8} {more : List (List UInt8)} {all : Bool} {h h₁ h' : Host Server}
    (first : Spoke payload true h h₁) (second : SpokeAll more all h₁ h') : SpokeAll (payload :: more) all h h' := by
  obtain ⟨seen, spoken, observed, same⟩ := first
  obtain ⟨seen', spoken', observed', same'⟩ := second
  refine ⟨seen ++ seen', .sent spoken (same ▸ spoken'), ?_, same'.trans same⟩
  rw [observed', observed, List.append_assoc]

theorem spokeAll_nil (h : Host Server) : SpokeAll [] true h h := ⟨[], .nil, by simp, rfl⟩

theorem remoteId_of_channel {s s' : Server} (same : channel s' = channel s) :
    s'.remoteChannelId = s.remoteChannelId := congrArg Channel.remoteChannelId same

section Session

variable {noxtls : Noxtls} {env : Env} {d : Nat} {child : Child} {h : Host Server}

/-! ### What goes out -/

theorem sendExitStatus_run (status : Nat) (h : Host Server) :
    (sendExitStatus noxtls env status).run h =
      (sendPacket noxtls env (exitStatusMessage h.self.remoteChannelId status)).run h := by
  rw [sendExitStatus, self_bind_run]
  rfl

variable (noxtls env) in
/-- Exit status, EOF and CLOSE, or what of them went out. -/
theorem farewell_spoke (status : Nat) (h : Host Server) :
    let farewell : Prog Server Unit := do
      sendExitStatus noxtls env status
      sendChannelEof noxtls env
      sendChannelClose noxtls env
    let messages := [exitStatusMessage h.self.remoteChannelId status,
      channelMessage 96 h.self.remoteChannelId, channelMessage 97 h.self.remoteChannelId]
    (∃ h', farewell.run h = (.ok (), h') ∧ SpokeAll messages true h h') ∨
      ∃ e h', farewell.run h = (.err e, h') ∧ SpokeAll messages false h h' := by
  dsimp only
  have first := sendPacket_spoke noxtls env (exitStatusMessage h.self.remoteChannelId status) rfl h
  rcases first with ⟨h₁, ran₁, spoke₁⟩ | ⟨e, h₁, ran₁, spoke₁⟩
  swap
  · refine .inr ⟨e, h₁, ?_, spoke₁.failed _⟩
    rw [bind_run, sendExitStatus_run, ran₁]
  have id₁ := remoteId_of_channel spoke₁.choose_spec.2.2
  have second := sendChannelMessage_spoke noxtls env (show 5 ≤ 32 by decide) 96 (by decide) h₁
  rw [id₁] at second
  rcases second with ⟨h₂, ran₂, spoke₂⟩ | ⟨e, h₂, ran₂, spoke₂⟩
  swap
  · refine .inr ⟨e, h₂, ?_, spoke₁.then (spoke₂.failed _)⟩
    rw [bind_run, sendExitStatus_run, ran₁]
    exact bind_err ran₂
  have id₂ := remoteId_of_channel spoke₂.choose_spec.2.2
  have third := sendChannelMessage_spoke noxtls env (show 5 ≤ 32 by decide) 97 (by decide) h₂
  rw [id₂, id₁] at third
  rcases third with ⟨h₃, ran₃, spoke₃⟩ | ⟨e, h₃, ran₃, spoke₃⟩
  · refine .inl ⟨h₃, ?_, spoke₁.then (spoke₂.then (spoke₃.then (spokeAll_nil h₃)))⟩
    rw [bind_run, sendExitStatus_run, ran₁]
    exact (bind_ok ran₂).trans ran₃
  · refine .inr ⟨e, h₃, ?_, spoke₁.then (spoke₂.then (spoke₃.failed _))⟩
    rw [bind_run, sendExitStatus_run, ran₁]
    exact (bind_ok ran₂).trans ran₃

variable (noxtls env) in
theorem sendChannelDataChunk_run {data : List UInt8} (some : data ≠ []) {h : Host Server}
    (small : data.length ≤ maxChunk h.self) (fits : data.length ≤ h.self.remoteWindowSize) :
    (sendChannelDataChunk noxtls env data).run h =
      (sendPacket noxtls env (dataMessage h.self.remoteChannelId data)).run
        { h with self := setRemoteWindow (h.self.remoteWindowSize - data.length) h.self } := by
  have chunk : maxChunk h.self ≤ 4096 := by
    unfold maxChunk
    split <;> omega
  rw [sendChannelDataChunk, ensure_bind_pos some, self_bind_run]
  dsimp only
  rw [List.take_of_length_le small, payloadAppendU8_some (by simp), Option.bind_eq_bind, Option.bind_some,
    payloadAppendU32_some (by simp), Option.bind_some, payloadAppendString_some (by simp; omega), lift_some,
    pure_bind_run, ensure_bind_pos fits, modify_bind_run]
  rfl

theorem maybeWindowAdjust_enough (much : h.self.localWindowSize > 65536) :
    (maybeWindowAdjust noxtls env).run h = (.ok (), h) := by
  rw [maybeWindowAdjust, self_bind_run, if_pos much, pure_run]

theorem maybeWindowAdjust_little (little : h.self.localWindowSize ≤ 65536) :
    (maybeWindowAdjust noxtls env).run h = (sendPacket noxtls env (windowAdjust h.self.localChannelId)).run
      { h with self := setLocalWindow (h.self.localWindowSize + 262144) h.self } := by
  rw [maybeWindowAdjust, self_bind_run, if_neg (by omega), wrap32_of_lt (by omega)]
  rfl

variable (noxtls env) in
/-- The window is topped up before the message for it goes out. -/
theorem maybeWindowAdjust_spoke (little : h.self.localWindowSize ≤ 65536) :
    ∃ all seen h', Says (channel h.self).topped (windowAdjust h.self.localChannelId) all seen ∧
      sights h'.trace = sights h.trace ++ seen ∧ channel h'.self = (channel h.self).topped ∧
      ((all = true ∧ (maybeWindowAdjust noxtls env).run h = (.ok (), h')) ∨
        (all = false ∧ ∃ e, (maybeWindowAdjust noxtls env).run h = (.err e, h'))) := by
  rw [maybeWindowAdjust_little little]
  have spoke := sendPacket_spoke noxtls env (windowAdjust h.self.localChannelId) rfl
    { h with self := setLocalWindow (h.self.localWindowSize + 262144) h.self }
  rcases spoke with ⟨h', ran, seen, spoken, observed, same⟩ | ⟨e, h', ran, seen, spoken, observed, same⟩
  · exact ⟨true, seen, h', spoken, observed, same, .inl ⟨rfl, ran⟩⟩
  · exact ⟨false, seen, h', spoken, observed, same, .inr ⟨rfl, e, ran⟩⟩

/-! ### What goes to the child -/

variable (env) in
/-- Data is written whole, or the child refuses the rest. -/
theorem writeChild_feeds (data : List UInt8) : ∀ (turns : Nat) (h : Host Server), data.length ≤ turns →
    (∃ seen h', (writeChild env .childInput turns data).run h = (.ok true, h') ∧
        Feeds (channel h.self) data seen ∧ sights h'.trace = sights h.trace ++ seen ∧
        channel h'.self = channel h.self) ∨
      ∃ taken left seen due h', (writeChild env .childInput turns data).run h = (.ok false, h') ∧
        data = taken ++ left ∧ left ≠ [] ∧ Feeds (channel h.self) taken seen ∧
        sights h'.trace = sights h.trace ++ (seen ++ [(.childRefused, channel h.self, due)]) ∧
        channel h'.self = channel h.self := by
  intro turns
  induction turns generalizing data with
  | zero =>
      intro h short
      obtain rfl : data = [] := List.length_eq_zero_iff.1 (by omega)
      exact .inl ⟨[], h, rfl, .nil, by simp, rfl⟩
  | succ turns ih =>
      intro h short
      cases data with
      | nil => exact .inl ⟨[], h, rfl, .nil, by simp, rfl⟩
      | cons c data =>
          rw [writeChild, ask_bind_run]
          dsimp only
          generalize upTo : min (env.childWrite h.tick) (c :: data).length = taken
          by_cases none : taken = 0
          · rw [if_pos none, log_bind_run, pure_run]
            refine .inr ⟨[], c :: data, [], rekeyDue h.self, _, rfl, rfl, by simp, .nil, ?_, rfl⟩
            rw [sights_append, sights_loud rfl]
            rfl
          · rw [if_neg none, log_bind_run]
            have cut : (c :: data).take taken ++ (c :: data).drop taken = c :: data := List.take_append_drop _ _
            rcases ih ((c :: data).drop taken)
              ⟨h.self, h.tick + 1, h.inbox, h.trace ++ [(.childInput ((c :: data).take taken), h.self)]⟩
              (by rw [List.length_drop]; omega) with
              ⟨seen, h', ran, feeds, observed, same⟩ |
              ⟨more, left, seen, due, h', ran, is, some, feeds, observed, same⟩
            · rw [sights_append, sights_loud rfl, List.append_assoc] at observed
              refine .inl ⟨_, h', ran, ?_, observed, same⟩
              have whole := @Feeds.cons _ ((c :: data).take taken) _ _ (rekeyDue h.self) feeds
              rwa [cut] at whole
            · rw [sights_append, sights_loud rfl, List.append_assoc] at observed
              refine .inr ⟨(c :: data).take taken ++ more, left, _, due, h', ran, ?_, some,
                .cons (rekeyDue h.self) feeds, ?_, same⟩
              · rw [List.append_assoc, ← is, cut]
              · simpa using observed

variable (env) in
/-- End of input for a terminal is one write, which may be refused. -/
theorem writeChild_eot (h : Host Server) :
    ∃ answer e due h', (writeChild env (fun _ => .childEot) 1 [4]).run h = (.ok answer, h') ∧
      (e = .childEot ∨ e = .childRefused) ∧ sights h'.trace = sights h.trace ++ [(e, channel h.self, due)] ∧
      channel h'.self = channel h.self := by
  rw [writeChild, ask_bind_run]
  dsimp only
  generalize upTo : min (env.childWrite h.tick) [(4 : UInt8)].length = taken
  by_cases none : taken = 0
  · rw [if_pos none, log_bind_run, pure_run]
    exact ⟨false, .childRefused, rekeyDue h.self, _, rfl, .inr rfl, by rw [sights_append, sights_loud rfl], rfl⟩
  · have one : taken = 1 := by
      simp only [List.length_singleton] at upTo
      omega
    rw [if_neg none, log_bind_run, one]
    exact ⟨true, .childEot, rekeyDue h.self, _, rfl, .inl rfl, by rw [sights_append, sights_loud rfl], rfl⟩

end Session

/-! ### EOF and CLOSE, in either loop -/

/-- What `srv_handle_channel_end` does with a packet. -/
inductive ChannelEnd (p : List UInt8) (h : Host Server) : Outcome NetnoxReturn Unit × Host Server → Prop
  | malformed (other : ends (channel h.self) p = false) (e : NetnoxReturn) : ChannelEnd p h (.err e, h)
  | eof (is : ends (channel h.self) p = true) (number : p.head? = some 96) : ChannelEnd p h (.ok (), h)
  | again (is : ends (channel h.self) p = true) (number : p.head? = some 97)
      (closed : h.self.channelOpen = false) : ChannelEnd p h (.ok (), h)
  | closed (is : ends (channel h.self) p = true) (number : p.head? = some 97)
      (isOpen : h.self.channelOpen = true) (seen : List Sight) (h' : Host Server)
      (spoken : Says (channel h.self) (channelMessage 97 h.self.remoteChannelId) true seen)
      (observed : sights h'.trace = sights h.trace ++ seen)
      (now : channel h'.self = (channel h.self).setOpen false) : ChannelEnd p h (.ok (), h')
  | failed (is : ends (channel h.self) p = true) (number : p.head? = some 97)
      (isOpen : h.self.channelOpen = true) (e : NetnoxReturn) (h' : Host Server)
      (spoke : Spoke (channelMessage 97 h.self.remoteChannelId) false h h') : ChannelEnd p h (.err e, h')

theorem handleChannelEnd_cases (noxtls : Noxtls) (env : Env) (p : List UInt8) (rest : Mem) (h : Host Server) :
    ChannelEnd p h ((handleChannelEnd noxtls env p (memOf p rest)).run h) := by
  rw [handleChannelEnd, self_bind_run]
  by_cases fine : p.length = 5 ∧ (p.head? = some 96 ∨ p.head? = some 97) ∧
      (payloadReadU32 (memOf p rest) p.length 1).map Prod.fst = some h.self.localChannelId
  swap
  · rw [ensure_bind_neg fine]
    refine .malformed ?_ _
    rw [ends_iff rest] at fine
    simpa using fine
  rw [ensure_bind_pos fine]
  have is := (ends_iff rest h.self).1 fine
  obtain ⟨-, number, -⟩ := fine
  rcases number with eof | close
  · rw [if_neg (by simp [eof]), pure_run]
    exact .eof is eof
  by_cases isOpen : h.self.channelOpen = true
  · rw [if_pos ⟨close, isOpen⟩]
    have spoke := failAs_spoke .failed (sendChannelMessage_spoke noxtls env (show 5 ≤ 32 by decide) 97 (by decide) h)
    rcases spoke with ⟨h', ran, seen, spoken, observed, same⟩ | ⟨h', ran, spoke⟩
    · have whole : (failAs .failed (sendChannelClose noxtls env) >>= fun _ => modify (setChannelOpen false)).run h =
          (.ok (), { h' with self := setChannelOpen false h'.self }) := bind_ok ran
      rw [whole]
      refine .closed is close isOpen seen _ spoken observed ?_
      rw [← same]
      rfl
    · have whole : (failAs .failed (sendChannelClose noxtls env) >>= fun _ => modify (setChannelOpen false)).run h =
          (.err .failed, h') := bind_err ran
      rw [whole]
      exact .failed is close isOpen _ h' spoke
  · rw [if_neg (fun both => isOpen both.2), pure_run]
    exact .again is close (by simpa using isOpen)

section Session

variable {noxtls : Noxtls} {env : Env} {p : List UInt8} {rest : Mem} {d : Nat} {child : Child}
  {h h' : Host Server}

/-! ### A packet in the session -/

/-- How the packet half of a turn ends. -/
def Dealt (d : Nat) (child : Child) : Outcome NetnoxReturn (Option Bool) → Phase → Host Server → Prop
  | .ok none, phase, _ => phase = .content d child
  | .ok (some false), phase, _ => phase = .broken
  | .ok (some true), phase, _ => phase = .leaving d
  | _, _, _ => False

theorem along_ignore (unseen : Unseen h h') (other : ends (channel h.self) p = false)
    (data : p.head? ≠ some 94) (credit : p.head? ≠ some 93) :
    Along channelMachine (.told d child p) h (.content d child) h' :=
  (along_move (F := channelMachine) (p := .told d child p) (t := h) (by simp)
    (.ignore d child p _ other data credit)).trans (unseen.along _)

theorem along_reject (unseen : Unseen h h') (other : ends (channel h.self) p = false) :
    Along channelMachine (.told d child p) h .broken h' :=
  (along_move (F := channelMachine) (p := .told d child p) (t := h) (by simp)
    (.reject d child p _ other)).trans (unseen.along _)

theorem follows_self {α : Type} {phase : Phase} {k : Server → Prog Server α}
    {Q : Outcome NetnoxReturn α → Phase → Host Server → Prop}
    (follows : Follows channelMachine phase (k h.self) Q h) : Follows channelMachine phase (self >>= k) Q h :=
  follows

/-- How a step of a session ends that breaks the loop if it fails. -/
def OrBroken (d : Nat) (child : Child) : Outcome NetnoxReturn Unit → Phase → Host Server → Prop
  | .ok _, phase, _ => phase = .content d child
  | .err _, phase, _ => phase = .broken
  | .stuck, _, _ => False

theorem follows_orBreak {phase : Phase} {m : Prog Server Unit}
    (follows : Follows channelMachine phase m (OrBroken d child) h) :
    Follows channelMachine phase (orBreak m) (Dealt d child) h := by
  refine follows.attempt.bind ?_ (fun _ _ _ never => never) fun _ _ never => never
  intro answer phase' h' _ post
  cases answer with
  | none =>
      obtain ⟨e, is⟩ := post
      exact follows_of_run (pure_run _ h') (along_refl _ _) is
  | some _ => exact follows_of_run (pure_run _ h') (along_refl _ _) post

theorem follows_windowAdjust :
    Follows channelMachine (.fed d child) (maybeWindowAdjust noxtls env) (OrBroken d child) h := by
  by_cases little : h.self.localWindowSize ≤ 65536
  · obtain ⟨all, seen, h', spoken, observed, same, ⟨rfl, ran⟩ | ⟨rfl, e, ran⟩⟩ :=
      maybeWindowAdjust_spoke noxtls env little
    · refine follows_of_run ran (along_move (F := channelMachine) observed ?_) rfl
      show Move _ _ (_, channel h'.self)
      rw [same]
      exact .topUp d child _ seen little spoken
    · refine follows_of_run ran (along_move (F := channelMachine) observed ?_) rfl
      show Move _ _ (_, channel h'.self)
      rw [same]
      exact .noTopUp d child _ seen little spoken
  · have much : h.self.localWindowSize > 65536 := by omega
    refine follows_of_run (maybeWindowAdjust_enough much) ?_ rfl
    exact along_move (F := channelMachine) (by simp) (.enough d child _ much)

theorem follows_sessionGlobalRequest (number : p.head? = some 80) (m : Mem) :
    Follows channelMachine (.told d child p) (handleGlobalRequest noxtls env p m) (OrBroken d child) h := by
  have unseen := unseen_of_quiet ((always_handleGlobalRequest background_dull passive_channel
    (speaks_dull (by decide)) p m : Always (Quiet Dull channel) (handleGlobalRequest noxtls env p m)) h)
  have answered := settles_handleGlobalRequest noxtls env p m h
  have other : ends (channel h.self) p = false := ends_other (by simp [number]) (by simp [number])
  cases ran : (handleGlobalRequest noxtls env p m).run h with
  | mk o h' =>
      rw [ran] at unseen answered
      cases o with
      | ok _ =>
          exact follows_of_run ran (along_ignore unseen other (by simp [number]) (by simp [number])) rfl
      | err e => exact follows_of_run ran (along_reject unseen other) rfl
      | stuck => exact absurd rfl answered

theorem follows_sessionData (data : List UInt8) (is : dataOf (channel h.self) p = some data) :
    Follows channelMachine (.told d child p) (do
      if ← writeChild env .childInput data.length data then do
        modify (setLocalWindow (h.self.localWindowSize - data.length))
        orBreak (maybeWindowAdjust noxtls env)
      else pure (some false)) (Dealt d child) h := by
  rcases writeChild_feeds env data data.length h le_rfl with
    ⟨seen, h', ran, feeds, observed, same⟩ |
    ⟨taken, left, seen, due, h', ran, rfl, some, feeds, observed, same⟩
  · refine Follows.after (m := orBreak (maybeWindowAdjust noxtls env)) (q := .fed d child)
      (t := { h' with self := setLocalWindow (h.self.localWindowSize - data.length) h'.self })
      (follows_orBreak follows_windowAdjust) ?_ ?_
    · refine along_move (F := channelMachine) observed ?_
      have now : channel (setLocalWindow (h.self.localWindowSize - data.length) h'.self) =
          (channel h.self).setLocal (h.self.localWindowSize - data.length) := by
        rw [← same]
        rfl
      show Move _ _ (_, channel (setLocalWindow (h.self.localWindowSize - data.length) h'.self))
      rw [now]
      exact .feed d child p data _ seen is feeds
    · rw [bind_ok ran]
      rfl
  · refine follows_of_run ((bind_ok ran).trans rfl) (along_move (F := channelMachine) observed ?_) rfl
    show Move _ _ (_, channel h'.self)
    rw [same]
    exact .choke d child p taken left due _ seen is some feeds

variable (noxtls env rest) in
theorem follows_sessionPacket (short : p.length ≤ maxPacketLen) :
    Follows channelMachine (.told d child p) (sessionPacket noxtls env p (memOf p rest)) (Dealt d child) h := by
  have rejects : ends (channel h.self) p = false →
      Follows channelMachine (.told d child p) (pure (some false)) (Dealt d child) h :=
    fun other => follows_of_run (pure_run _ h) (along_reject ⟨rfl, rfl⟩ other) rfl
  have ignores : ends (channel h.self) p = false → p.head? ≠ some 94 → p.head? ≠ some 93 →
      Follows channelMachine (.told d child p) (pure none) (Dealt d child) h :=
    fun other data credit => follows_of_run (pure_run _ h) (along_ignore ⟨rfl, rfl⟩ other data credit) rfl
  rw [sessionPacket]
  refine follows_self ?_
  split
  · rename_i number
    exact rejects (ends_other (by simp [number]) (by simp [number]))
  · rename_i number
    exact follows_orBreak (follows_sessionGlobalRequest number _)
  · rename_i number
    have other : ends (channel h.self) p = false := ends_other (by simp [number]) (by simp [number])
    split
    · exact rejects other
    · rename_i data is
      exact follows_sessionData data (sessionData_some number short is)
  · rename_i number
    have other : ends (channel h.self) p = false := ends_other (by simp [number]) (by simp [number])
    split
    · exact rejects other
    · rename_i window is
      obtain ⟨rfl, fits⟩ := adjustedWindow_some number is
      refine follows_of_run rfl (along_move (F := channelMachine) (List.append_nil _).symm ?_) rfl
      exact .credit d child p (channel h.self) number fits
  · rename_i number
    have done := handleChannelEnd_cases noxtls env p rest h
    cases ran : (handleChannelEnd noxtls env p (memOf p rest)).run h with
    | mk o h' =>
        rw [ran] at done
        cases done with
        | malformed other e =>
            refine follows_of_run (t := h) (o := .ok (some false)) ?_ (along_reject ⟨rfl, rfl⟩ other) rfl
            rw [bind_run, attempt_run, ran]
            rfl
        | eof is _ =>
            have passes : Along channelMachine (.told d child p) h (.content d child) h :=
              along_move (F := channelMachine) (by simp) (.eof d child p _ is number)
            by_cases pty : h.self.wantPty = true
            · obtain ⟨answer, e, due, h', wrote, which, observed, same⟩ := writeChild_eot env h
              refine follows_of_run (t := h') (o := .ok none) ?_
                (along_move (F := channelMachine) observed ?_) rfl
              · rw [bind_run, attempt_run, ran]
                dsimp only
                rw [if_pos pty, bind_ok wrote, pure_run]
              · show Move _ _ (_, channel h'.self)
                rw [same]
                exact .eot d child p due e _ is number which
            · refine follows_of_run (t := h) (o := .ok none) ?_ passes rfl
              rw [bind_run, attempt_run, ran]
              dsimp only
              rw [if_neg pty, pure_run]
        | again _ close => simp [number] at close
        | closed _ close => simp [number] at close
        | failed _ close => simp [number] at close
  · rename_i number
    have done := handleChannelEnd_cases noxtls env p rest h
    cases ran : (handleChannelEnd noxtls env p (memOf p rest)).run h with
    | mk o h' =>
        rw [ran] at done
        cases done with
        | malformed other e =>
            refine follows_of_run (t := h) (o := .ok (some false)) ?_ (along_reject ⟨rfl, rfl⟩ other) rfl
            rw [bind_run, attempt_run, ran]
            rfl
        | eof _ eof => simp [number] at eof
        | again is _ closed =>
            refine follows_of_run (t := h) (o := .ok (some true)) ?_
              (along_move (F := channelMachine) (by simp) (.peerCloseAgain d child p _ is number closed)) rfl
            rw [bind_run, attempt_run, ran]
            rfl
        | closed is _ isOpen seen _ spoken observed now =>
            refine follows_of_run (t := h') (o := .ok (some true)) ?_
              (along_move (F := channelMachine) observed ?_) rfl
            · rw [bind_run, attempt_run, ran]
              rfl
            · show Move _ _ (_, channel h'.self)
              rw [now]
              exact .peerClose d child p _ seen is number isOpen spoken
        | failed is _ isOpen e _ spoke =>
            obtain ⟨seen, spoken, observed, same⟩ := spoke
            refine follows_of_run (t := h') (o := .ok (some false)) ?_
              (along_move (F := channelMachine) observed ?_) rfl
            · rw [bind_run, attempt_run, ran]
              rfl
            · show Move _ _ (_, channel h'.self)
              rw [same]
              exact .peerCloseFails d child p _ seen is number isOpen spoken
  · rename_i number
    exact rejects (ends_other (by simp [number]) (by simp [number]))
  · rename_i number
    have other : ends (channel h.self) p = false := ends_other (by simp [number]) (by simp [number])
    split
    · split
      · exact ignores other (by simp [number]) (by simp [number])
      · exact rejects other
    · exact ignores other (by simp [number]) (by simp [number])
  · rename_i n notGlobal notData notCredit notEof notClose _ _ number
    refine ignores (ends_other ?_ ?_) ?_ ?_
    · exact fun is => notEof (Option.some.inj (number.symm.trans is))
    · exact fun is => notClose (Option.some.inj (number.symm.trans is))
    · exact fun is => notData (Option.some.inj (number.symm.trans is))
    · exact fun is => notCredit (Option.some.inj (number.symm.trans is))

/-! ### The child's output and its end -/

/-- How reading the child's output ends. -/
def Forwarded (d : Nat) : Outcome NetnoxReturn (Option Child) → Phase → Host Server → Prop
  | .ok none, phase, _ => phase = .broken
  | .ok (some child), phase, _ => phase = .session d child
  | _, _, _ => False

/-- How a turn of the session loop ends. -/
def Turned (d : Nat) : Outcome NetnoxReturn Turn → Phase → Host Server → Prop
  | .ok (.again child), phase, _ => phase = .session d child
  | .ok .complete, phase, _ => phase = .ending d
  | .ok (.broken false), phase, _ => phase = .broken
  | .ok (.broken true), phase, _ => phase = .leaving d
  | .err _, _, _ => False
  | .stuck, phase, _ => Waiting phase

theorem readCap_le (s : Server) : readCap s ≤ s.remoteWindowSize ∧ readCap s ≤ maxChunk s ∧
    (s.remoteMaxPacketSize > 64 → readCap s ≤ s.remoteMaxPacketSize - 64) := by
  unfold readCap maxChunk
  dsimp only
  split <;> split <;> omega

variable (noxtls env) in
/-- A piece of output is forwarded, or the loop breaks. -/
theorem follows_forward {output : List UInt8} (filled : output ≠ []) (size : output.length ≤ readCap h.self) :
    Follows channelMachine (.session d child) (do
      log (.childOutput output)
      match ← attempt (sendChannelDataChunk noxtls env output) with
      | none => pure none
      | some () => pure (some child)) (Forwarded d) h := by
  obtain ⟨inWindow, inChunk, inPacket⟩ := readCap_le h.self
  have ran := sendChannelDataChunk_run noxtls env filled
    (h := ⟨h.self, h.tick, h.inbox, h.trace ++ [(.childOutput output, h.self)]⟩)
    (size.trans inChunk) (size.trans inWindow)
  have spoke := sendPacket_spoke noxtls env (dataMessage h.self.remoteChannelId output) rfl
    ⟨setRemoteWindow (h.self.remoteWindowSize - output.length) h.self, h.tick, h.inbox,
      h.trace ++ [(.childOutput output, h.self)]⟩
  rcases spoke with ⟨h', sent, seen, spoken, observed, same⟩ | ⟨e, h', failed, seen, spoken, observed, same⟩
  · rw [sights_append, sights_loud rfl, List.append_assoc] at observed
    refine follows_of_run (o := .ok (some child)) (t := h') ?_ (along_move (F := channelMachine) observed ?_) rfl
    · rw [log_bind_run, bind_run, attempt_run, ran, sent]
      rfl
    · show Move _ _ (_, channel h'.self)
      rw [same]
      exact .output d child output _ (channel h.self) seen filled (size.trans inWindow)
        (fun large => size.trans (inPacket large)) spoken
  · rw [sights_append, sights_loud rfl, List.append_assoc] at observed
    refine follows_of_run (o := .ok none) (t := h') ?_ (along_move (F := channelMachine) observed ?_) rfl
    · rw [log_bind_run, bind_run, attempt_run, ran, failed]
      rfl
    · show Move _ _ (_, channel h'.self)
      rw [same]
      exact .outputFails d child output _ (channel h.self) seen filled (size.trans inWindow)
        (fun large => size.trans (inPacket large)) spoken

theorem follows_sessionOutput :
    Follows channelMachine (.session d child) (sessionOutput noxtls env child) (Forwarded d) h := by
  have ended : Along channelMachine (.session d child) h (.session d { child with outputEof := true })
      { h with tick := h.tick + 1 } :=
    along_move (F := channelMachine) (List.append_nil _).symm (.outputEnds d child (channel h.self))
  have aborted : Along channelMachine (.session d child) h .broken { h with tick := h.tick + 1 } :=
    along_move (F := channelMachine) (List.append_nil _).symm (.abort d child (channel h.self))
  rw [sessionOutput]
  cases answer : env.childRead h.tick with
  | eof =>
      refine follows_of_run (o := .ok (some { child with outputEof := true })) ?_ ended rfl
      rw [ask_bind_run, answer, pure_run]
  | again =>
      refine follows_of_run (o := .ok (some child)) (t := { h with tick := h.tick + 1 }) ?_
        (along_quiet _ rfl rfl) rfl
      rw [ask_bind_run, answer, pure_run]
  | error =>
      refine follows_of_run (o := .ok none) ?_ aborted rfl
      rw [ask_bind_run, answer, pure_run]
  | bytes output =>
      by_cases empty : output.take (readCap h.self) = []
      · refine follows_of_run (o := .ok (some { child with outputEof := true })) ?_ ended rfl
        rw [ask_bind_run, answer]
        dsimp only
        rw [self_bind_run]
        dsimp only
        rw [if_pos empty, pure_run]
      · refine Follows.after (t := { h with tick := h.tick + 1 })
          (follows_forward noxtls env empty (List.length_take_le _ _))
          (along_quiet _ rfl rfl) ?_
        rw [ask_bind_run, answer]
        dsimp only
        rw [self_bind_run]
        dsimp only
        rw [if_neg empty] <;> rfl

theorem follows_reapChild :
    Follows channelMachine (.session d child) (reapChild env child)
      (fun o phase _ => ∃ reaped, o = .ok reaped ∧ phase = .session d { child with reaped := reaped }) h := by
  rw [reapChild]
  by_cases alive : child.reaped = none
  · rw [if_pos alive]
    cases answer : env.waitpid h.tick with
    | none =>
        refine follows_of_run (o := .ok none) (t := { h with tick := h.tick + 1 }) ?_
          (along_quiet _ rfl rfl) ⟨none, rfl, ?_⟩
        · rw [ask_bind_run, answer, pure_run]
        · rw [← alive]
    | some status =>
        have observed : sights (h.trace ++ [(.childReaped status, h.self)]) =
            sights h.trace ++ [(.childReaped status, channel h.self, rekeyDue h.self)] := by
          rw [sights_append, sights_loud rfl]
        have reaped : Along channelMachine (.session d child) h (.session d { child with reaped := some status })
            ⟨h.self, h.tick + 1, h.inbox, h.trace ++ [(.childReaped status, h.self)]⟩ :=
          along_move (F := channelMachine) observed (.reap d child status _ _ alive)
        refine follows_of_run (o := .ok (some status)) ?_ reaped ⟨some status, rfl, rfl⟩
        rw [ask_bind_run, answer]
        rfl
  · rw [if_neg alive]
    exact follows_of_run (pure_run _ h) (along_refl _ _) ⟨child.reaped, rfl, rfl⟩

theorem follows_sessionReap :
    Follows channelMachine (.session d child) (sessionReap noxtls env child) (Turned d) h := by
  rw [sessionReap]
  refine follows_reapChild.bind ?_ (fun _ _ _ never => ?_) (fun _ _ never => ?_)
  · rintro _ _ h₁ - ⟨reaped, same, rfl⟩
    obtain rfl := Outcome.ok.inj same
    dsimp only
    split
    · rename_i status ended
      rcases farewell_spoke noxtls env (exitCode status) h₁ with
        ⟨h₂, ran, seen, spoken, observed, same⟩ | ⟨e, h₂, ran, seen, spoken, observed, same⟩
      · have completes : Along channelMachine (.session d { child with reaped := some status }) h₁ (.ending d)
            { h₂ with self := setChannelOpen false h₂.self } := by
          refine along_move (F := channelMachine) observed ?_
          have now : channel (setChannelOpen false h₂.self) = (channel h₁.self).setOpen false := by
            rw [← same]
            rfl
          show Move _ _ (_, channel (setChannelOpen false h₂.self))
          rw [now]
          exact .complete d _ status _ seen ended rfl spoken
        refine follows_of_run (o := .ok .complete) ?_ completes rfl
        rw [bind_run, attempt_run, ran]
        rfl
      · refine follows_of_run (o := .ok (.broken false)) (t := h₂) ?_ (along_move (F := channelMachine) observed ?_) rfl
        · rw [bind_run, attempt_run, ran]
          rfl
        · show Move _ _ (_, channel h₂.self)
          rw [same]
          exact .incomplete d _ status _ seen ended rfl spoken
    · exact follows_of_run (pure_run _ h₁) (along_refl _ _) rfl
  · obtain ⟨_, same, -⟩ := never
    cases same
  · obtain ⟨_, same, -⟩ := never
    cases same

theorem follows_sessionChild (ready : Bool) :
    Follows channelMachine (.session d child) (sessionChild noxtls env child ready) (Turned d) h := by
  rw [sessionChild]
  cases ready with
  | false => exact follows_sessionReap
  | true =>
      rw [if_pos rfl]
      refine follows_self ?_
      by_cases closed : readCap h.self = 0
      · rw [if_pos closed]
        exact follows_of_run (pure_run _ h) (along_refl _ _) rfl
      · rw [if_neg closed]
        refine follows_sessionOutput.bind ?_ (fun _ _ _ never => never) fun _ _ never => False.elim never
        intro answer phase h₁ _ post
        cases answer with
        | none => exact follows_of_run (pure_run _ h₁) (along_refl _ _) post
        | some child =>
            obtain rfl : phase = .session d child := post
            exact follows_sessionReap

/-! ### Turns -/

/-- A receive, told by the machine: a packet was heard, or nothing was. -/
theorem recvInto_seen (noxtls : Noxtls) (env : Env) (h : Host Server) :
    (∃ p rest h', (recvInto noxtls env maxPacketLen).run h = (.ok (p, memOf p rest), h') ∧
        p.length ≤ maxPacketLen ∧ channel h'.self = channel h.self ∧
        sights h'.trace = sights h.trace ++ [(.received p, channel h.self, rekeyDue h'.self)]) ∨
      ∃ o h', (recvInto noxtls env maxPacketLen).run h = (o, h') ∧ (∀ got, o ≠ .ok got) ∧ Unseen h h' := by
  rcases recvInto_cases noxtls env background_dull (fun _ => rfl) passive_channel maxPacketLen h with
    ⟨p, rest, h', t, ran, short, quiet⟩ | ⟨o, h', ran, failed, quiet⟩
  · have unseen := unseen_of_quiet quiet
    refine .inl ⟨p, rest, _, ran, short, unseen.2, ?_⟩
    rw [sights_append, sights_loud rfl, unseen.1, unseen.2]
  · exact .inr ⟨o, h', ran, failed, unseen_of_quiet quiet⟩

theorem follows_sessionTurn :
    Follows channelMachine (.session d child) (sessionTurn noxtls env child) (Turned d) h := by
  have breaks : ∀ {h : Host Server}, Follows channelMachine (.session d child)
      (pure (.broken false)) (Turned d) h := fun {h} =>
    follows_of_run (pure_run _ h) (along_move (F := channelMachine) (by simp) (.abort d child _)) rfl
  have again : ∀ {h : Host Server}, Follows channelMachine (.session d child)
      (pure (.again child)) (Turned d) h := fun {h} => follows_of_run (pure_run _ h) (along_refl _ _) rfl
  rw [sessionTurn]
  refine follows_self ?_
  by_cases due : rekeyDue h.self = true
  · rw [if_pos due]
    exact breaks
  rw [if_neg due]
  have polled : Along channelMachine (.session d child) h (.session d child) { h with tick := h.tick + 1 } :=
    along_quiet _ rfl rfl
  have asked : ∀ {k : PollAnswer → Prog Server Turn},
      Follows channelMachine (.session d child) (k (env.poll h.tick)) (Turned d) { h with tick := h.tick + 1 } →
      Follows channelMachine (.session d child) (ask env.poll >>= k) (Turned d) h :=
    fun rest => rest.after polled (ask_bind_run h env.poll _)
  dsimp only
  refine asked ?_
  cases env.poll h.tick with
  | interrupted => exact again
  | error => exact breaks
  | timeout =>
      dsimp only
      split
      · exact follows_sessionChild _
      · exact breaks
  | ready transport output =>
      dsimp only
      split
      · exact breaks
      split
      swap
      · exact follows_sessionChild _
      rcases recvInto_seen noxtls env { h with tick := h.tick + 1 } with
        ⟨p, rest, h₁, ran, short, same, observed⟩ | ⟨o, h₁, ran, failed, unseen⟩
      · have heard : Along channelMachine (.session d child) { h with tick := h.tick + 1 } (.told d child p) h₁ := by
          refine along_move (F := channelMachine) observed ?_
          show Move _ _ (_, channel h₁.self)
          rw [same]
          exact .tell d child p _ _
        refine (follows_sessionPacket noxtls env rest short).bind (R := Turned d)
          (k := fun answer => answer.elim (do
                log .sessionGoesOn
                sessionChild noxtls env child
                  ((!child.outputEof && decide (h.self.remoteWindowSize ≠ 0)) && (output.pollin || output.pollhup)))
              fun peerClosed => pure (.broken peerClosed))
          ?_ (fun _ _ _ never => never) (fun _ _ never => False.elim never) |>.after heard ?_
        · intro answer phase h₂ _ post
          cases answer with
          | some peerClosed => cases peerClosed <;> exact follows_of_run (pure_run _ h₂) (along_refl _ _) post
          | none =>
              obtain rfl : phase = .content d child := post
              have observed : sights (h₂.trace ++ [(.sessionGoesOn, h₂.self)]) =
                  sights h₂.trace ++ [(.sessionGoesOn, channel h₂.self, rekeyDue h₂.self)] := by
                rw [sights_append, sights_loud rfl]
              have goes : Along channelMachine (.content d child) h₂ (.session d child)
                  ⟨h₂.self, h₂.tick, h₂.inbox, h₂.trace ++ [(.sessionGoesOn, h₂.self)]⟩ :=
                along_move (F := channelMachine) observed (.goOn d child _ _)
              exact (follows_sessionChild _).after goes rfl
        · rw [bind_run, attempt_run, ran]
          refine congrArg (fun k => (sessionPacket noxtls env p (memOf p rest) >>= k).run h₁) (funext fun answer => ?_)
          cases answer <;> rfl
      · cases o with
        | ok got => exact absurd rfl (failed got)
        | err e =>
            refine Follows.after (t := h₁) (breaks (h := h₁)) (unseen.along _) ?_
            rw [bind_run, attempt_run, ran]
        | stuck =>
            refine follows_of_run (o := .stuck) (t := h₁) ?_ (unseen.along (.session d child)) trivial
            rw [bind_run, attempt_run, ran]

/-- How the session loop ends. -/
def Left (d : Nat) : Outcome NetnoxReturn Unit → Phase → Host Server → Prop
  | .ok _, phase, _ => phase = .ending d
  | .err _, phase, _ => phase = .over true
  | .stuck, phase, _ => Waiting phase

variable (noxtls env) in
theorem follows_sessionLoop (turns : Nat) :
    ∀ (child : Child) (h : Host Server),
      Follows channelMachine (.session d child) (sessionLoop noxtls env turns child) (Left d) h := by
  induction turns with
  | zero => exact fun child h => follows_of_run (stall_run h) (along_refl _ _) trivial
  | succ turns ih =>
      intro child h
      rw [sessionLoop]
      refine follows_sessionTurn.bind ?_ (fun _ _ _ never => never.elim) fun _ _ waits => waits
      intro turn phase h₁ _ post
      match turn, post with
      | .again child, post =>
          obtain rfl : phase = .session d child := post
          exact ih child h₁
      | .complete, post => exact follows_of_run (pure_run _ h₁) (along_refl _ _) post
      | .broken false, post =>
          obtain rfl : phase = .broken := post
          exact follows_of_run rfl (along_move (F := channelMachine) (List.append_nil _).symm (.shut _)) rfl
      | .broken true, post =>
          obtain rfl : phase = .leaving d := post
          exact follows_of_run rfl (along_move (F := channelMachine) (List.append_nil _).symm (.left d _)) rfl

theorem follows_runSessionUnix (turns : Nat) (command : Option (List UInt8)) :
    Follows channelMachine (.granted d) (runSessionUnix noxtls env turns command) (Left d) h := by
  rw [runSessionUnix]
  refine follows_self ?_
  by_cases may : 0 ≤ h.self.transportFd ∧ h.self.authenticatedUser ≠ []
  swap
  · exact follows_of_run (ensure_bind_neg may _ _ h)
      (along_move (F := channelMachine) (by simp) (.unstarted d _)) rfl
  have started : Along channelMachine (.granted d) h (.session d ⟨false, none⟩)
      ⟨setSessionStarted h.self, h.tick + 1, h.inbox, h.trace ++ [(.sessionStarted command, h.self)]⟩ := by
    have observed : sights (h.trace ++ [(.sessionStarted command, h.self)]) =
        sights h.trace ++ [(.sessionStarted command, channel h.self, rekeyDue h.self)] := by
      rw [sights_append, sights_loud rfl]
    exact along_move (F := channelMachine) observed (.start d command _ _)
  by_cases forked : env.fork h.tick = true
  · refine Follows.after (follows_sessionLoop noxtls env turns ⟨false, none⟩ _) started ?_
    rw [ensure_bind_pos may, log_bind_run, modify_bind_run, ask_bind_run, ensure_bind_pos forked]
  · refine follows_of_run (o := .err .failed) ?_
      (started.trans (along_move (F := channelMachine) (by simp) (.unforked d _ _))) rfl
    rw [ensure_bind_pos may, log_bind_run, modify_bind_run, ask_bind_run, ensure_bind_neg forked]

end Session

/-! ## Requests, data and the end, in the serve loop -/

theorem replyByteAt_memOf {p : List UInt8} (rest : Mem) {s : Server} {chan off next : Nat} {req : View}
    (number : p.head? = some 98) (names : chan = s.localChannelId) (inside : next < p.length)
    (first : payloadReadU32 (memOf p rest) p.length 1 = some (chan, off))
    (second : payloadReadStringView (memOf p rest) p.length off = some (req, next)) :
    replyByteAt (channel s) p = some next := by
  obtain ⟨rfl, -, -⟩ := payloadReadU32_some first (by decide)
  rw [payloadReadU32_memOf rest (fun _ => 0) (by decide)] at first
  rw [payloadReadStringView_memOf rest (fun _ => 0) (by decide)] at second
  rw [replyByteAt, if_pos number, contents, first]
  dsimp only
  rw [second]
  exact if_pos ⟨names, inside⟩

/-- A request without its want-reply byte asks for nothing. -/
theorem asks_none {c : Channel} {p : List UInt8} (missing : replyByteAt c p = none) : asks c p = false := by
  simp [asks, missing]

theorem asks_closed {c : Channel} {p : List UInt8} (closed : c.channelOpen = false) : asks c p = false := by
  simp [asks, closed]

theorem asks_some {c : Channel} {p : List UInt8} {off : Nat} (isOpen : c.channelOpen = true)
    (found : replyByteAt c p = some off) : asks c p = decide (contents p off ≠ 0) := by
  simp [asks, isOpen, found]

section Loop

variable {noxtls : Noxtls} {env : Env} {p : List UInt8} {rest : Mem} {d : Nat} {h h' : Host Server}

variable (env) in
/-- The close wait starts, or the clock does not allow it. -/
theorem follows_beginCloseWait :
    Follows channelMachine (.ending d) (failAs .failed (beginCloseWait env d)) HandledWith h := by
  rw [beginCloseWait]
  by_cases waits : d ≠ 0
  · have set : Along channelMachine (.ending d) h (.serve d) h :=
      along_move (F := channelMachine) (by simp) (.wait d d _ waits)
    refine follows_of_run (o := .ok d) ?_ set rfl
    rw [failAs_run, if_pos waits]
    rfl
  rw [if_neg waits]
  by_cases reads : env.clock h.tick ≠ clockFailed ∧ env.clock h.tick ≤ clockFailed - 10000
  · have set : Along channelMachine (.ending d) h (.serve (env.clock h.tick + 10000)) { h with tick := h.tick + 1 } :=
      along_move (F := channelMachine) (List.append_nil _).symm (.wait d _ (channel h.self) (by omega))
    refine follows_of_run (o := .ok (env.clock h.tick + 10000)) ?_ set rfl
    rw [failAs_run, ask_bind_run, ensure_bind_pos reads]
    rfl
  · have unset : Along channelMachine (.ending d) h (.over true) { h with tick := h.tick + 1 } :=
      along_move (F := channelMachine) (List.append_nil _).symm (.unwaited d (channel h.self))
    refine follows_of_run (o := .err .failed) ?_ unset rfl
    rw [failAs_run, ask_bind_run, ensure_bind_neg reads]

/-! ### CHANNEL_REQUEST -/

theorem follows_refuse {wantReply : Bool} (wants : asks (channel h.self) p = wantReply)
    (number : p.head? = some 98) :
    Follows channelMachine (.heard d p false) (refuse noxtls env wantReply >>= fun _ => pure d) HandledWith h := by
  rw [refuse]
  cases wantReply with
  | false => exact follows_of_run rfl (along_pass ⟨rfl, rfl⟩ wants (by simp [number])) rfl
  | true =>
      have spoke := sendChannelMessage_spoke noxtls env (show 5 ≤ 64 by decide) 100 (by decide) h
      rcases spoke with ⟨h', ran, seen, spoken, observed, same⟩ | ⟨e, h', ran, seen, spoken, observed, same⟩
      · refine follows_of_run (o := .ok d) (t := h') ?_ (along_move (F := channelMachine) observed ?_) rfl
        · rw [if_pos rfl, bind_run, bind_run, attempt_run, sendChannelFailure, ran]
          rfl
        · show Move _ _ (_, channel h'.self)
          rw [same]
          exact .refused d p _ true seen wants spoken
      · refine follows_of_run (o := .ok d) (t := h') ?_ (along_move (F := channelMachine) observed ?_) rfl
        · rw [if_pos rfl, bind_run, bind_run, attempt_run, sendChannelFailure, ran]
          rfl
        · show Move _ _ (_, channel h'.self)
          rw [same]
          exact .refused d p _ false seen wants spoken

variable (noxtls env) in
theorem confirm_spoke (h : Host Server) :
    (∃ h', (confirm noxtls env true).run h = (.ok (), h') ∧
        Spoke (channelMessage 99 h.self.remoteChannelId) true h h') ∨
      ∃ h', (confirm noxtls env true).run h = (.err .failed, h') ∧
        Spoke (channelMessage 99 h.self.remoteChannelId) false h h' := by
  rw [confirm, if_pos rfl]
  exact failAs_spoke .failed (sendChannelMessage_spoke _ _ (by decide) _ (by decide) h)

variable (noxtls env) in
/-- A request that is confirmed and needs nothing else. -/
theorem follows_confirm {wantReply : Bool} (wants : asks (channel h.self) p = wantReply)
    (number : p.head? = some 98) :
    Follows channelMachine (.heard d p false) (confirm noxtls env wantReply >>= fun _ => pure d) HandledWith h := by
  cases wantReply with
  | false => exact follows_of_run rfl (along_pass ⟨rfl, rfl⟩ wants (by simp [number])) rfl
  | true =>
      rcases confirm_spoke noxtls env h with
        ⟨h', ran, seen, spoken, observed, same⟩ | ⟨h', ran, seen, spoken, observed, same⟩
      · refine follows_of_run (bind_ok ran) (along_move (F := channelMachine) observed ?_) rfl
        show Move _ _ (_, channel h'.self)
        rw [same]
        exact .confirmed d p _ seen wants spoken
      · refine follows_of_run (bind_err ran) (along_move (F := channelMachine) observed ?_) rfl
        show Move _ _ (_, channel h'.self)
        rw [same]
        exact .unanswered d p _ seen wants spoken

/-- A request for a session, up to the start of the session. -/
def Granted (d : Nat) : Outcome NetnoxReturn Unit → Phase → Host Server → Prop
  | .ok _, phase, _ => phase = .granted d
  | .err _, phase, _ => phase = .over true
  | .stuck, _, _ => False

theorem follows_grant {wantReply : Bool} (wants : asks (channel h.self) p = wantReply)
    (isOpen : h.self.channelOpen = true) (number : p.head? = some 98) :
    Follows channelMachine (.heard d p false) (confirm noxtls env wantReply) (Granted d) h := by
  cases wantReply with
  | false =>
      exact follows_of_run (pure_run _ h) (along_move (F := channelMachine) (by simp)
        (.grantedSilently d p _ wants isOpen number)) rfl
  | true =>
      rcases confirm_spoke noxtls env h with
        ⟨h', ran, seen, spoken, observed, same⟩ | ⟨h', ran, seen, spoken, observed, same⟩
      · refine follows_of_run ran (along_move (F := channelMachine) observed ?_) rfl
        show Move _ _ (_, channel h'.self)
        rw [same]
        exact .granted d p _ seen wants spoken
      · refine follows_of_run ran (along_move (F := channelMachine) observed ?_) rfl
        show Move _ _ (_, channel h'.self)
        rw [same]
        exact .unanswered d p _ seen wants spoken

theorem follows_runAndClose (turns : Nat) {wantReply : Bool} (command : Option (List UInt8))
    (wants : asks (channel h.self) p = wantReply) (isOpen : h.self.channelOpen = true)
    (number : p.head? = some 98) :
    Follows channelMachine (.heard d p false) (runAndClose noxtls env turns wantReply command d) HandledWith h := by
  rw [runAndClose]
  refine (follows_grant wants isOpen number).bind ?_ (fun _ _ _ post => post) fun _ _ never => never.elim
  rintro _ _ h₁ - rfl
  refine ((follows_runSessionUnix turns command).failAs .failed fun _ _ _ post => post).bind ?_
    (fun _ _ _ post => post) fun _ _ post => post
  rintro _ _ h₂ - rfl
  exact follows_beginCloseWait _

theorem follows_channelRequest (turns : Nat) (number : p.head? = some 98) :
    Follows channelMachine (.heard d p false) (channelRequest noxtls env turns d p (memOf p rest)) HandledWith h := by
  have passes : asks (channel h.self) p = false → Follows channelMachine (.heard d p false) (pure d) HandledWith h :=
    fun silent => follows_of_run (pure_run _ h) (along_pass ⟨rfl, rfl⟩ silent (by simp [number])) rfl
  have drops : asks (channel h.self) p = false → Along channelMachine (.heard d p false) h (.over true) h :=
    fun silent => along_drop ⟨rfl, rfl⟩ silent (ends_other (by simp [number]) (by simp [number]))
  rw [channelRequest]
  refine follows_self ?_
  by_cases closed : h.self.channelOpen = false
  · rw [if_pos closed]
    exact passes (asks_closed closed)
  rw [if_neg closed]
  have isOpen : h.self.channelOpen = true := by simpa using closed
  cases first : payloadReadU32 (memOf p rest) p.length 1 with
  | none =>
      have missing : replyByteAt (channel h.self) p = none := by
        rw [payloadReadU32_memOf rest (fun _ => 0) (by decide)] at first
        rw [replyByteAt, if_pos number, contents, first]
      exact follows_of_run rfl (drops (asks_none missing)) rfl
  | some got =>
  obtain ⟨chan, off⟩ := got
  obtain ⟨rfl, -, -⟩ := payloadReadU32_some first (by decide)
  have first' := first
  rw [payloadReadU32_memOf rest (fun _ => 0) (by decide)] at first'
  rw [lift_some]
  refine Follows.after (t := h) (q := .heard d p false) ?_ (along_refl _ _) (pure_bind_run _ _ h)
  dsimp only
  by_cases names : chan ≠ h.self.localChannelId
  · rw [if_pos names]
    refine passes (asks_none ?_)
    rw [replyByteAt, if_pos number, contents, first']
    dsimp only
    split
    · rfl
    · exact if_neg fun both => names both.1
  rw [if_neg names]
  cases second : payloadReadStringView (memOf p rest) p.length (1 + 4) with
  | none =>
      have missing : replyByteAt (channel h.self) p = none := by
        rw [payloadReadStringView_memOf rest (fun _ => 0) (by decide)] at second
        rw [replyByteAt, if_pos number, contents, first']
        dsimp only
        rw [second]
      exact follows_of_run rfl (drops (asks_none missing)) rfl
  | some got =>
  obtain ⟨req, off⟩ := got
  rw [lift_some]
  refine Follows.after (t := h) (q := .heard d p false) ?_ (along_refl _ _) (pure_bind_run _ _ h)
  dsimp only
  by_cases inside : off < p.length
  swap
  · have missing : replyByteAt (channel h.self) p = none := by
      rw [payloadReadStringView_memOf rest (fun _ => 0) (by decide)] at second
      rw [replyByteAt, if_pos number, contents, first']
      dsimp only
      rw [second]
      exact if_neg fun both => inside both.2
    exact follows_of_run (ensure_bind_neg inside _ _ h) (drops (asks_none missing)) rfl
  have at_ := replyByteAt_memOf rest number (not_not.1 names) inside first second
  have wants : asks (channel h.self) p = decide (memOf p rest off ≠ 0) := by
    rw [asks_some isOpen at_, contents, memOf_lt inside rest, memOf_lt inside fun _ => 0]
  refine Follows.after (t := h) (q := .heard d p false) ?_ (along_refl _ _) (ensure_bind_pos inside _ _ h)
  rw [channelRequestBody]
  refine follows_self ?_
  split
  · split
    · exact follows_refuse wants number
    · rename_i pty _
      have granted := follows_confirm noxtls env (d := d)
        (h := { h with self := setPty pty h.self }) wants number
      exact granted.after (along_quiet _ rfl rfl) (modify_bind_run _ _ _)
  split
  · split
    · exact follows_refuse wants number
    · exact follows_runAndClose turns _ wants isOpen number
  split
  · split
    · exact follows_refuse wants number
    · exact follows_runAndClose turns _ wants isOpen number
  · exact follows_refuse wants number

/-! ### CHANNEL_DATA -/

theorem channel_charge (len : Nat) (h : Host Server) :
    ∃ h', (chargeWindow h.self len).run h = (.ok (), h') ∧ sights h'.trace = sights h.trace ∧
      channel h'.self = (channel h.self).charge len := by
  rw [chargeWindow]
  by_cases fits : h.self.localWindowSize ≥ len
  · rw [if_pos fits]
    refine ⟨_, rfl, rfl, ?_⟩
    rw [Channel.charge, if_pos (show (channel h.self).localWindowSize ≥ len from fits)]
    rfl
  · rw [if_neg fits]
    refine ⟨h, rfl, rfl, ?_⟩
    rw [Channel.charge, if_neg (show ¬ (channel h.self).localWindowSize ≥ len from fits)]

theorem charge_localChannelId (len : Nat) (c : Channel) : (c.charge len).localChannelId = c.localChannelId := by
  unfold Channel.charge
  split <;> rfl

theorem follows_channelData (number : p.head? = some 94) :
    Follows channelMachine (.heard d p false) (channelData noxtls env p (memOf p rest)) (Handled d) h := by
  have silent : asks (channel h.self) p = false := asks_other (by simp [number])
  have other : ends (channel h.self) p = false := ends_other (by simp [number]) (by simp [number])
  rw [channelData]
  refine follows_self ?_
  cases first : payloadReadU32 (memOf p rest) p.length 1 with
  | none => exact follows_of_run rfl (along_drop ⟨rfl, rfl⟩ silent other) rfl
  | some got =>
  obtain ⟨recipient, off⟩ := got
  obtain ⟨rfl, -, -⟩ := payloadReadU32_some first (by decide)
  rw [payloadReadU32_memOf rest (fun _ => 0) (by decide)] at first
  rw [lift_some]
  refine Follows.after (t := h) (q := .heard d p false) ?_ (along_refl _ _) (pure_bind_run _ _ h)
  dsimp only
  by_cases names : recipient ≠ h.self.localChannelId
  · rw [if_pos names]
    exact follows_of_run (pure_run _ h) (along_pass ⟨rfl, rfl⟩ silent (by simp [number])) rfl
  rw [if_neg names]
  rw [payloadReadStringView_memOf rest (fun _ => 0) (by decide)]
  cases second : payloadReadStringView (memOf p fun _ => 0) p.length (1 + 4) with
  | none => exact follows_of_run rfl (along_drop ⟨rfl, rfl⟩ silent other) rfl
  | some got =>
  obtain ⟨view, off⟩ := got
  have is : dataLenOf (channel h.self) p = some view.len := by
    rw [dataLenOf, if_pos number, contents, first]
    dsimp only
    rw [second]
    exact if_pos (not_not.1 names)
  rw [lift_some]
  refine Follows.after (t := h) (q := .heard d p false) ?_ (along_refl _ _) (pure_bind_run _ _ h)
  dsimp only
  obtain ⟨h₁, ran, silentTrace, same⟩ := channel_charge view.len h
  by_cases little : h₁.self.localWindowSize ≤ 65536
  · obtain ⟨all, seen, h', spoken, observed, now, ended⟩ :=
      maybeWindowAdjust_spoke noxtls env little
    have id : h₁.self.localChannelId = (channel h.self).localChannelId := by
      rw [← charge_localChannelId view.len, ← same]
      rfl
    rw [silentTrace] at observed
    rw [same, id] at spoken
    rw [same] at now
    have small : ((channel h.self).charge view.len).localWindowSize ≤ 65536 := by
      rw [← same]
      exact little
    refine follows_of_run (o := .ok ()) (t := h') ?_ (along_move (F := channelMachine) observed ?_) rfl
    · rw [bind_ok ran, bind_run, attempt_run]
      rcases ended with ⟨-, sent⟩ | ⟨-, e, failed⟩
      · rw [sent]
        rfl
      · rw [failed]
        rfl
    · show Move _ _ (_, channel h'.self)
      rw [now]
      exact .toppedUp d p view.len _ all seen is small spoken
  · have much : h₁.self.localWindowSize > 65536 := by omega
    refine follows_of_run (o := .ok ()) (t := h₁) ?_ ?_ rfl
    · rw [bind_ok ran, bind_run, attempt_run, maybeWindowAdjust_enough much]
      rfl
    · refine along_move (F := channelMachine) (by rw [List.append_nil]; exact silentTrace) ?_
      show Move _ _ (_, channel h₁.self)
      rw [same]
      have enough : ((channel h.self).charge view.len).localWindowSize > 65536 := by
        rw [← same]
        exact much
      exact .charged d p view.len _ is enough

/-! ### EOF and CLOSE -/

theorem follows_channelEnd (number : p.head? = some 96 ∨ p.head? = some 97) :
    Follows channelMachine (.heard d p false) (channelEnd noxtls env d p (memOf p rest)) HandledWith h := by
  have silent : asks (channel h.self) p = false := asks_other (by rcases number with is | is <;> simp [is])
  have done := handleChannelEnd_cases noxtls env p rest h
  rw [channelEnd]
  cases ran : (handleChannelEnd noxtls env p (memOf p rest)).run h with
  | mk o h' =>
      rw [ran] at done
      cases done with
      | malformed other e =>
          exact follows_of_run (bind_err (failAs_err ran)) (along_drop ⟨rfl, rfl⟩ silent other) rfl
      | eof is eof =>
          refine follows_of_run (o := .ok d) (t := h) ?_ (along_pass ⟨rfl, rfl⟩ silent (by simp [eof])) rfl
          rw [bind_ok (failAs_ok ran), if_neg (by simp [eof]), pure_run]
      | again is close closed =>
          refine Follows.after (q := .ending d) (t := h) (follows_beginCloseWait env) ?_ ?_
          · exact along_move (F := channelMachine) (by simp) (.closedAlready d p _ is close closed)
          · rw [bind_ok (failAs_ok ran), if_pos close]
      | closed is close isOpen seen _ spoken observed now =>
          refine Follows.after (q := .ending d) (t := h') (follows_beginCloseWait env) ?_ ?_
          · refine along_move (F := channelMachine) observed ?_
            show Move _ _ (_, channel h'.self)
            rw [now]
            exact .answered d p _ seen is close isOpen spoken
          · rw [bind_ok (failAs_ok ran), if_pos close]
      | failed is close isOpen e _ spoke =>
          obtain ⟨seen, spoken, observed, same⟩ := spoke
          refine follows_of_run (bind_err (failAs_err ran)) (along_move (F := channelMachine) observed ?_) rfl
          show Move _ _ (_, channel h'.self)
          rw [same]
          exact .unclosed d p _ seen is close isOpen spoken

/-! ### The loop -/

/-- How a turn of the loop ends. -/
def Dispatched : Outcome NetnoxReturn Next → Phase → Host Server → Prop
  | .ok (.again d), phase, _ => phase = .serve d
  | .ok .done, phase, _ => phase = .over false
  | .err _, phase, _ => phase = .over true
  | .stuck, phase, _ => Waiting phase

theorem follows_goOn {phase : Phase} {m : Prog Server Unit} (follows : Follows channelMachine phase m (Handled d) h) :
    Follows channelMachine phase (goOn d m) Dispatched h := by
  refine follows.bind ?_ (fun _ _ _ post => post) fun _ _ post => post
  rintro _ _ h₁ - rfl
  exact follows_of_run (pure_run _ h₁) (along_refl _ _) rfl

theorem follows_goOnWith {phase : Phase} {m : Prog Server Nat}
    (follows : Follows channelMachine phase m HandledWith h) :
    Follows channelMachine phase (goOnWith m) Dispatched h := by
  refine follows.bind ?_ (fun _ _ _ post => post) fun _ _ post => post
  rintro d _ h₁ - rfl
  exact follows_of_run (pure_run _ h₁) (along_refl _ _) rfl

theorem follows_dispatch (turns : Nat) (short : p.length ≤ maxPacketLen) :
    Follows channelMachine (.heard d p false) (dispatch noxtls env turns d p (memOf p rest)) Dispatched h := by
  have passes : p.head? ≠ some 96 → p.head? ≠ some 97 → p.head? ≠ some 98 →
      Follows channelMachine (.heard d p false) (pure (.again d)) Dispatched h := fun notEof notClose notRequest =>
    follows_of_run (pure_run _ h) (along_pass ⟨rfl, rfl⟩ (asks_other notRequest)
      (by simp [ends_other notEof notClose])) rfl
  rw [dispatch]
  split
  · rename_i number
    exact passes (by simp [number]) (by simp [number]) (by simp [number])
  · rename_i number
    exact follows_of_run (pure_run _ h) (along_drop ⟨rfl, rfl⟩ (asks_other (by simp [number]))
      (ends_other (by simp [number]) (by simp [number]))) rfl
  · rename_i number
    exact passes (by simp [number]) (by simp [number]) (by simp [number])
  · rename_i number
    exact passes (by simp [number]) (by simp [number]) (by simp [number])
  · rename_i number
    exact follows_goOn (follows_globalRequest number _)
  · rename_i number
    exact follows_goOn (follows_serviceRequest number _)
  · rename_i number
    exact follows_goOn (follows_userauthRequest number _)
  · rename_i number
    exact follows_goOn (follows_channelOpenRequest number short)
  · rename_i number
    exact follows_goOnWith (follows_channelRequest turns number)
  · rename_i number
    exact follows_goOn (follows_channelData number)
  · rename_i number
    exact follows_goOnWith (follows_channelEnd (.inl number))
  · rename_i number
    exact follows_goOnWith (follows_channelEnd (.inr number))
  · rename_i n _ _ _ _ _ _ _ notRequest _ notEof notClose number
    refine passes ?_ ?_ ?_
    · exact fun is => notEof (Option.some.inj (number.symm.trans is))
    · exact fun is => notClose (Option.some.inj (number.symm.trans is))
    · exact fun is => notRequest (Option.some.inj (number.symm.trans is))

theorem follows_serveTurn (turns : Nat) :
    Follows channelMachine (.turn d) (serveTurn noxtls env turns d) Dispatched h := by
  rw [serveTurn]
  rcases recvInto_seen noxtls env h with ⟨p, rest, h₁, ran, short, same, observed⟩ | ⟨o, h₁, ran, failed, unseen⟩
  swap
  · cases o with
    | ok got => exact absurd rfl (failed got)
    | err e =>
        have left : Along channelMachine (.turn d) h (.over false) h :=
          along_move (F := channelMachine) (by simp) (.leave d false _)
        refine follows_of_run (o := .ok .done) (t := h₁) ?_ (left.trans (unseen.along _)) rfl
        rw [bind_run, attempt_run, ran]
        rfl
    | stuck =>
        refine follows_of_run (o := .stuck) (t := h₁) ?_ (unseen.along _) trivial
        rw [bind_run, attempt_run, ran]
  have heard : Along channelMachine (.turn d) h (.heard d p (rekeyDue h₁.self)) h₁ := by
    refine along_move (F := channelMachine) observed ?_
    show Move _ _ (_, channel h₁.self)
    rw [same]
    exact .hear d p _ _
  refine Follows.after (m := if p = [] then pure (Next.again d) else do
      ensure (rekeyDue (← self) = false) .failed
      dispatch noxtls env turns d p (memOf p rest)) ?_ heard (by rw [bind_run, attempt_run, ran])
  by_cases nothing : p = []
  · rw [if_pos nothing]
    refine follows_of_run (pure_run _ h₁) (along_pass ⟨rfl, rfl⟩ (asks_other (by simp [nothing])) ?_) rfl
    simp [nothing]
  rw [if_neg nothing]
  refine follows_self ?_
  by_cases due : rekeyDue h₁.self = false
  · have spared : Along channelMachine (.heard d p (rekeyDue h₁.self)) h₁ (.heard d p false) h₁ := by
      rw [due]
      exact along_refl _ _
    exact (follows_dispatch turns short).after spared (ensure_bind_pos due _ _ h₁)
  · have limited : Along channelMachine (.heard d p (rekeyDue h₁.self)) h₁ (.over true) h₁ := by
      rw [show rekeyDue h₁.self = true by simpa using due]
      exact along_move (F := channelMachine) (by simp) (.limit d p _)
    exact follows_of_run (ensure_bind_neg due _ _ h₁) limited rfl

/-- How the loop ends. -/
def Ended : Outcome NetnoxReturn Unit → Phase → Host Server → Prop
  | .ok _, phase, _ => phase = .over false
  | .err _, phase, _ => phase = .over true
  | .stuck, phase, _ => Waiting phase

variable (env) in
theorem unseen_packetReady (d : Nat) (h : Host Server) :
    ∃ answer, (packetReady env d).run h = (.ok answer, ((packetReady env d).run h).2) ∧
      Unseen h ((packetReady env d).run h).2 := by
  have unseen := unseen_of_quiet ((always_packetReady d : Always (Quiet Dull channel) (packetReady env d)) h)
  suffices answers : ∃ answer, ((packetReady env d).run h).1 = .ok answer by
    obtain ⟨answer, is⟩ := answers
    exact ⟨answer, by rw [← is], unseen⟩
  rw [packetReady]
  split
  · rw [waitClosePacket, ask_bind_run, self_bind_run]
    dsimp only
    split
    · exact ⟨_, rfl⟩
    split
    · exact ⟨_, rfl⟩
    rw [ask_bind_run]
    split
    · exact ⟨_, rfl⟩
    · exact ⟨_, rfl⟩
    · exact ⟨_, rfl⟩
    · split
      · exact ⟨_, rfl⟩
      split
      · exact ⟨_, rfl⟩
      · exact ⟨_, rfl⟩
  · exact ⟨_, rfl⟩

/-- What the loop of `serve_one` does after the wait. -/
def afterWait (noxtls : Noxtls) (env : Env) (sessionTurns closeDeadlineMs : Nat) : CloseWait → Prog Server Next
  | .retry => pure (.again closeDeadlineMs)
  | .over => pure .done
  | .error => fail .failed
  | .readable => serveTurn noxtls env sessionTurns closeDeadlineMs

/-- One turn of the loop of `serve_one`. -/
def lap (noxtls : Noxtls) (env : Env) (sessionTurns closeDeadlineMs : Nat) : Prog Server Next := do
  log (.serving closeDeadlineMs)
  afterWait noxtls env sessionTurns closeDeadlineMs (← packetReady env closeDeadlineMs)

/-- The loop takes a turn and goes on as the turn says. -/
theorem serveLoop_lap {sessionTurns : Nat} (turns closeDeadlineMs : Nat) (h : Host Server) :
    (serveLoop noxtls env sessionTurns (turns + 1) closeDeadlineMs).run h =
      match (lap noxtls env sessionTurns closeDeadlineMs).run h with
      | (.ok .done, h') => (.ok (), h')
      | (.ok (.again d), h') => (serveLoop noxtls env sessionTurns turns d).run h'
      | (.err e, h') => (.err e, h')
      | (.stuck, h') => (.stuck, h') := by
  rw [serveLoop, lap, log_bind_run, log_bind_run, bind_run, bind_run]
  rcases (packetReady env closeDeadlineMs).run _ with ⟨o, h₁⟩
  cases o with
  | err e => rfl
  | stuck => rfl
  | ok ready =>
      cases ready with
      | retry => rfl
      | «over» => rfl
      | error => rfl
      | readable =>
          dsimp only [afterWait]
          rw [bind_run]
          rcases (serveTurn noxtls env sessionTurns closeDeadlineMs).run h₁ with ⟨o, h₂⟩
          cases o with
          | err e => rfl
          | stuck => rfl
          | ok next => cases next <;> rfl

theorem follows_lap (sessionTurns : Nat) :
    Follows channelMachine (.serve d) (lap noxtls env sessionTurns d) Dispatched h := by
  have observed : sights (h.trace ++ [(.serving d, h.self)]) =
      sights h.trace ++ [(.serving d, channel h.self, rekeyDue h.self)] := by
    rw [sights_append, sights_loud rfl]
  obtain ⟨h₁, logged⟩ : ∃ h₁ : Host Server, h₁ = ⟨h.self, h.tick, h.inbox, h.trace ++ [(.serving d, h.self)]⟩ :=
    ⟨_, rfl⟩
  have topped : Along channelMachine (.serve d) h (.turn d) h₁ := by
    rw [logged]
    exact along_move (F := channelMachine) observed (.top d _ _)
  obtain ⟨answer, ran, unseen⟩ := unseen_packetReady env d h₁
  have ready := topped.trans (unseen.along (.turn d))
  refine Follows.after (m := afterWait noxtls env sessionTurns d answer) ?_ ready
    (by rw [lap, log_bind_run, ← logged, bind_ok ran])
  cases answer with
  | retry =>
      exact follows_of_run rfl (along_move (F := channelMachine) (List.append_nil _).symm (.retry d _)) rfl
  | «over» =>
      exact follows_of_run rfl (along_move (F := channelMachine) (List.append_nil _).symm (.leave d false _)) rfl
  | error =>
      exact follows_of_run rfl (along_move (F := channelMachine) (List.append_nil _).symm (.leave d true _)) rfl
  | readable => exact follows_serveTurn sessionTurns

theorem follows_serveLoop (sessionTurns turns : Nat) :
    ∀ (d : Nat) (h : Host Server),
      Follows channelMachine (.serve d) (serveLoop noxtls env sessionTurns turns d) Ended h := by
  induction turns with
  | zero => exact fun d h => follows_of_run (stall_run h) (along_refl _ _) trivial
  | succ turns ih =>
      intro d h
      obtain ⟨phase, path, post⟩ := @follows_lap noxtls env d h sessionTurns
      have turn := @serveLoop_lap noxtls env sessionTurns turns d h
      revert path post turn
      rcases (lap noxtls env sessionTurns d).run h with ⟨o, h₁⟩
      intro path post turn
      cases o with
      | err e => exact follows_of_run turn path post
      | stuck => exact follows_of_run turn path post
      | ok next =>
          cases next with
          | done => exact follows_of_run turn path post
          | again d' =>
              obtain rfl : phase = .serve d' := post
              exact (ih d' h₁).after path turn

end Loop

/-! ## A run -/

section Run

variable {noxtls : Noxtls} {env : Env}

/-- Before the loop only packets are seen. -/
def Early (e : Event) : Prop := Dull e ∨ ∃ p, e = .received p

theorem speaks_early {number : UInt8} (other : (91 ≤ number && number ≤ 100) = false) : Speaks Early number :=
  fun payload heads => (speaks_dull other payload heads).imp .inl .inl

theorem kexChatter_early : KexChatter Early where
  wire bytes := .inl (background_dull.wire bytes)
  expired := .inl background_dull.expired
  overflow := .inl background_dull.overflow
  macComputed message tag := .inl (background_dull.macComputed message tag)
  macAccepted message tag := .inl (background_dull.macAccepted message tag)
  receiving _ := .inl rfl
  received p := .inr ⟨p, rfl⟩
  kexinit := speaks_early (by decide)
  newkeys := speaks_early (by decide)
  reply := speaks_early (by decide)

theorem path_hello {c : Channel} : ∀ (new : List (Event × Server)),
    (∀ e ∈ new, Early e.1 ∧ channel e.2 = c) → Path Move (.handshake, c) (sights new) (.handshake, c) := by
  intro new
  induction new using List.reverseRecOn with
  | nil => exact fun _ => Path.nil _
  | append_singleton new e ih =>
      intro each
      rw [sights_append]
      have before := ih fun e' mem => each e' (List.mem_append_left _ mem)
      obtain ⟨early, same⟩ := each e (by simp)
      obtain ⟨e, s⟩ := e
      obtain dull | ⟨p, rfl⟩ := early
      · have silent : sights [(e, s)] = [] := sights_dull (by rintro _ (_ | ⟨_, ⟨⟩⟩); exact dull)
        rw [silent, List.append_nil]
        exact before
      · rw [sights_loud rfl, show channel s = c from same]
        exact before.snoc (.hello p _ c)

theorem along_early {h h' : Host Server} (quiet : Quiet Early channel h h') :
    Along channelMachine .handshake h .handshake h' := by
  obtain ⟨same, new, grown, kept⟩ := quiet
  refine ⟨sights new, by show sights h'.trace = _; rw [grown, sights_append]; rfl, ?_⟩
  show Path Move (_, channel h.self) _ (_, channel h'.self)
  rw [same]
  exact path_hello new kept

variable (noxtls env) in
theorem follows_serveOne (turns : Nat) (h : Host Server) :
    Follows channelMachine .handshake (serveOne noxtls env turns) Ended h := by
  rw [serveOne]
  obtain ⟨h₁, armed⟩ : ∃ h₁ : Host Server,
    h₁ = ⟨setHandshakeDeadline (wrap64 (env.clock h.tick + 30000)) h.self, h.tick + 1, h.inbox, h.trace⟩ := ⟨_, rfl⟩
  have silent : Along channelMachine .handshake h .handshake h₁ := by
    have same (now : Nat) : channel (setHandshakeDeadline now h.self) = channel h.self := by
      simp only [channel, setHandshakeDeadline]
    rw [armed]
    exact along_quiet _ rfl (same _)
  refine Follows.after (t := h₁) (q := .handshake) (m := do
    failAs .failed (handshakeToEncrypted noxtls env)
    serveLoop noxtls env turns turns 0) ?_ silent ?_
  swap
  · rw [ask_bind_run, modify_bind_run, ← armed]
  have shakes : Always (Quiet Early channel) (failAs .failed (handshakeToEncrypted noxtls env)) :=
    always_failAs _ (always_handshakeToEncrypted kexChatter_early unkeyed_channel)
  have early := along_early (shakes h₁)
  cases ran : (failAs .failed (handshakeToEncrypted noxtls env)).run h₁ with
  | mk o h₂ =>
      rw [ran] at early
      cases o with
      | ok _ =>
          exact (follows_serveLoop turns turns 0 h₂).after
            (early.trans (along_move (F := channelMachine) (List.append_nil _).symm (.shaken _))) (bind_ok ran)
      | err e =>
          exact follows_of_run (bind_err ran)
            (early.trans (along_move (F := channelMachine) (List.append_nil _).symm (.unshaken _))) rfl
      | stuck =>
          refine follows_of_run (o := .stuck) ?_ early trivial
          rw [bind_run, ran]

end Run

/-- How a run of `serve_one` ends, if it does within `turns` turns of each loop. -/
def serveOutcome (noxtls : Noxtls) (env : Env) (setup : Setup) (inbox : List UInt8) (turns : Nat) :
    Outcome NetnoxReturn Unit :=
  ((serveOne noxtls env turns).run ⟨setup.server, 0, inbox, []⟩).1

/-- A server before anything happened. -/
def freshChannel : Channel := ⟨false, false, 0, 0, 0, 0, 0⟩

/-- Every run is a path of the machine from the handshake, and ends where the path ends. -/
theorem served_path (noxtls : Noxtls) (env : Env) (setup : Setup) (inbox : List UInt8) (turns : Nat) :
    ∃ phase, Path Move (.handshake, freshChannel) (sights (served noxtls env setup inbox turns).trace)
        (phase, channel (served noxtls env setup inbox turns).self) ∧
      Ended (serveOutcome noxtls env setup inbox turns) phase (served noxtls env setup inbox turns) := by
  obtain ⟨phase, ⟨new, observed, path⟩, ended⟩ :=
    follows_serveOne noxtls env turns ⟨setup.server, 0, inbox, []⟩
  refine ⟨phase, ?_, ended⟩
  have all : sights (served noxtls env setup inbox turns).trace = new := observed
  rw [all]
  exact path

end NoxSsh.Server
