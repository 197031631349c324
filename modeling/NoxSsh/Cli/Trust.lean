/-
# Cli.Trust — the host key before everything else

`main` connects, looks at the key of the host and goes on only if it is trusted.  In every run
what is confidential goes out behind that verdict: the fingerprint that was judged is the one
of a host key that has signed the exchange, and until another exchange is entered the packets
are protected by the keys of that one (`nothing_before_trust`).

A run reads and writes one file of known hosts.  Over any series of runs that share it, two
runs that trust the same host and port have seen the same host key (`first_key_is_kept`).
-/
import NoxSsh.Cli.Conduct
import NoxSsh.Client.Binding

namespace NoxSsh.Cli

open Theory Proc Wire Transport Client

set_option autoImplicit false

/-! ## The verdict of a run -/

/-- What was judged. -/
def judgements (actions : List Action) : List (Query × Verdict) :=
  actions.filterMap fun action =>
    match action with
    | .judged q verdict _ => some (q, verdict)
    | _ => none

/-- The file of known hosts. -/
def pathOf (w : Surroundings) (s : Options) : List UInt8 := (knownHostsPath w.home s.knownHostsFilePath).getD []

/-- What is in it. -/
def knownTo (w : Surroundings) (s : Options) (files : List UInt8 → Option (List UInt8)) : List UInt8 :=
  (files (pathOf w s)).getD []

/-- A call of `noxssh_verify_host_key` with these options: the fingerprint is the host's and the
answer is the user's. -/
structure Asks (w : Surroundings) (s : Options) (q : Query) : Prop where
  host : q.host = s.host
  port : q.port = s.port
  mode : q.strictHostKeyChecking = s.strictHostKeyChecking
  pin : q.pinnedFingerprintHex = s.pinnedHostkeyHex
  batchMode : q.batchMode = s.batchMode
  writable : q.writable = (ensureKnownHostsDir w (pathOf w s) && w.appendable (pathOf w s))

/-- Why a host key is trusted. -/
def Grounds (q : Query) (known : List UInt8) : Prop :=
  q.fingerprint.length = 32 ∧
    (q.pinnedFingerprintHex ≠ [] ∧ bytesToHex q.fingerprint = q.pinnedFingerprintHex ∨
      q.pinnedFingerprintHex = [] ∧
        (lookupKnownHost known q.host q.port = some (bytesToHex q.fingerprint) ∨
          q.strictHostKeyChecking = .no ∨ ComesToSave q known ∧ q.writable = true))

theorem trusted_iff (q : Query) (known : List UInt8) : (verifyHostKey q known).1.trusted = true ↔ Grounds q known := by
  have saves : (saveHost q known).1.trusted = q.writable := by
    rw [saveHost, appendKnownHost]
    cases q.writable <;> rfl
  rw [verifyHostKey, Grounds]
  by_cases length : q.fingerprint.length = 32
  · by_cases pinned : q.pinnedFingerprintHex = []
    · simp only [length, pinned, ne_eq, not_true_eq_false, ite_false, true_and, false_and, false_or]
      cases found : lookupKnownHost known q.host q.port with
      | some knownHex =>
          by_cases same : knownHex = bytesToHex q.fingerprint
          · simp [same, Verdict.trusted]
          · by_cases lax : q.strictHostKeyChecking = .no
            · simp [same, lax, Verdict.trusted]
            · simp [same, lax, Verdict.trusted, ComesToSave, found]
      | none =>
          simp only [reduceCtorEq, false_or, ComesToSave, found, true_and, meetHost]
          cases mode : q.strictHostKeyChecking with
          | yes => simp [Verdict.trusted]
          | no => simp [Verdict.trusted]
          | acceptNew => simp [saves]
          | ask =>
              cases batch : q.batchMode with
              | true => simp [Verdict.trusted]
              | false =>
                  cases said : q.answer with
                  | none => simp [askUser, said, Verdict.trusted]
                  | some answer =>
                      by_cases yes : saysYes answer = true
                      · simp [askUser, said, yes, saves]
                      · simp [askUser, said, yes, Verdict.trusted]
    · by_cases same : bytesToHex q.fingerprint = q.pinnedFingerprintHex
      · simp [length, pinned, same, Verdict.trusted]
      · simp [length, pinned, same, Verdict.trusted]
  · simp [length, Verdict.trusted]

/-! ## What a run knows -/

/-- The files behind the verdict. -/
def filesAfter (w : Surroundings) (s : Options) (files : List UInt8 → Option (List UInt8)) (q : Query) :
    List UInt8 → Option (List UInt8) :=
  if (verifyHostKey q (knownTo w s files)).1 = .saved then
    fun p => if p = pathOf w s then some (verifyHostKey q (knownTo w s files)).2 else files p
  else files

/-- No verdict was given, or one on such a query, and the files are what it makes of them. -/
def Filed (w : Surroundings) (s : Options) (files : List UInt8 → Option (List UInt8)) (app : App) : Prop :=
  judgements app.actions = [] ∧ app.files = files ∨
    ∃ q, Asks w s q ∧ judgements app.actions = [(q, (verifyHostKey q (knownTo w s files)).1)] ∧
      app.files = filesAfter w s files q

/-- Nothing confidential was said. -/
def Silent (trace : List (Event × Client)) : Prop := ∀ e ∈ trace, Harmless e.1

/-- After the history `old` the host key `blob` was trusted, which has signed the exchange behind `keys`. -/
structure Trusting (noxtls : Noxtls) (w : Surroundings) (s : Options) (files : List UInt8 → Option (List UInt8))
    (old : List (Event × Client)) (q : Query) (blob : List UInt8) (keys : TransportKeys) (app : App) : Prop where
  silent : Silent old
  asks : Asks w s q
  grounds : Grounds q (knownTo w s files)
  print : noxtls.hash blob = some q.fingerprint
  bound : Bound noxtls w.env old blob keys
  judged : .judged q (verifyHostKey q (knownTo w s files)).1 old.length ∈ app.actions
  once : judgements app.actions = [(q, (verifyHostKey q (knownTo w s files)).1)]
  files : app.files = filesAfter w s files q

section Knowledge

variable (noxtls : Noxtls) (w : Surroundings) (s : Options) (files : List UInt8 → Option (List UInt8))

/-- Before the verdict. -/
structure Unspoken (app : App) : Prop where
  sound : Sound noxtls w.env app.client
  silent : Silent app.client.trace
  unjudged : judgements app.actions = []
  files : app.files = files

/-- Behind it. -/
def Speaking (app : App) : Prop :=
  ∃ old q blob keys, Trusting noxtls w s files old q blob keys app ∧ Sound noxtls w.env app.client ∧
    Keeping old keys app.client

/-- In every run, however far it has come. -/
structure Gated (app : App) : Prop where
  sound : Sound noxtls w.env app.client
  filed : Filed w s files app
  gated : Silent app.client.trace ∨ ∃ old q blob keys, Trusting noxtls w s files old q blob keys app ∧
    ∃ new, app.client.trace = old ++ new ∧ Audited (fun before e => Unentered before → HasKeys e.2 keys) new

end Knowledge

section Gate

variable {noxtls : Noxtls} {w : Surroundings} {s : Options} {files : List UInt8 → Option (List UInt8)} {sock : Nat}
  {app app' : App} {old : List (Event × Client)} {q : Query} {blob : List UInt8} {keys : TransportKeys}

/-- Nothing is judged or written. -/
def Unjudging (app app' : App) : Prop :=
  app'.files = app.files ∧ ∃ more, app'.actions = app.actions ++ more ∧ judgements more = []

theorem judgements_append (a b : List Action) : judgements (a ++ b) = judgements a ++ judgements b :=
  List.filterMap_append

theorem Unjudging.judgements (onward : Unjudging app app') : judgements app'.actions = judgements app.actions := by
  obtain ⟨-, more, grown, none⟩ := onward
  rw [grown, judgements_append, none, List.append_nil]

theorem onward_client (client : Host Client) (app : App) : Unjudging app { app with client := client } :=
  ⟨rfl, [], by simp, rfl⟩

theorem Filed.onward (filed : Filed w s files app) (onward : Unjudging app app') : Filed w s files app' := by
  rw [Filed, onward.judgements, onward.1]
  exact filed

theorem Trusting.onward (trusting : Trusting noxtls w s files old q blob keys app) (onward : Unjudging app app') :
    Trusting noxtls w s files old q blob keys app' :=
  { trusting with
    judged := by
      obtain ⟨-, more, grown, -⟩ := onward
      rw [grown]
      exact List.mem_append_left _ trusting.judged
    once := onward.judgements.trans trusting.once
    files := onward.1.trans trusting.files }

theorem Trusting.filed (trusting : Trusting noxtls w s files old q blob keys app) : Filed w s files app :=
  .inr ⟨q, trusting.asks, trusting.once, trusting.files⟩

theorem Unspoken.gated (unspoken : Unspoken noxtls w files app) : Gated noxtls w s files app :=
  ⟨unspoken.sound, .inl ⟨unspoken.unjudged, unspoken.files⟩, .inl unspoken.silent⟩

theorem Speaking.gated (speaking : Speaking noxtls w s files app) : Gated noxtls w s files app := by
  obtain ⟨old, q, blob, keys, trusting, sound, new, grown, -, audited⟩ := speaking
  exact ⟨sound, trusting.filed, .inr ⟨old, q, blob, keys, trusting, new, grown, audited⟩⟩

theorem Unspoken.onward (unspoken : Unspoken noxtls w files app) (onward : Unjudging app app')
    (same : app'.client = app.client) : Unspoken noxtls w files app' :=
  ⟨same ▸ unspoken.sound, same ▸ unspoken.silent, onward.judgements.trans unspoken.unjudged,
    onward.1.trans unspoken.files⟩

theorem Speaking.onward (speaking : Speaking noxtls w s files app) (onward : Unjudging app app')
    (same : app'.client = app.client) : Speaking noxtls w s files app' := by
  obtain ⟨old, q, blob, keys, trusting, sound, keeping⟩ := speaking
  exact ⟨old, q, blob, keys, trusting.onward onward, same ▸ sound, same ▸ keeping⟩

theorem Gated.onward (gated : Gated noxtls w s files app) (onward : Unjudging app app')
    (same : app'.client = app.client) : Gated noxtls w s files app' := by
  refine ⟨same ▸ gated.sound, gated.filed.onward onward, ?_⟩
  rw [same]
  exact gated.gated.imp id fun ⟨old, q, blob, keys, trusting, rest⟩ =>
    ⟨old, q, blob, keys, trusting.onward onward, rest⟩

/-- An action other than a verdict. -/
theorem onward_act {a : Action} (other : judgements [a] = []) (app : App) : Unjudging app (addAction a app) :=
  ⟨rfl, [a], rfl, other⟩

/-- `main` without a verdict or a call of the library. -/
def Inert {α : Type} (m : Main α) : Prop := Always (fun app app' => Unjudging app app' ∧ app'.client = app.client) m

theorem inert_order : StepOrder fun app app' => Unjudging app app' ∧ app'.client = app.client := by
  constructor
  · exact fun app => ⟨⟨rfl, [], by simp, rfl⟩, rfl⟩
  · rintro a b c ⟨⟨files, more, grown, none⟩, same⟩ ⟨⟨files', more', grown', none'⟩, same'⟩
    exact ⟨⟨files'.trans files, more ++ more', by rw [grown', grown, List.append_assoc], by
      rw [judgements_append, none, none']; rfl⟩, same'.trans same⟩

theorem inert_act {a : Action} (other : judgements [a] = []) : Inert (act a) :=
  always_update fun app => ⟨onward_act other app, rfl⟩

theorem inert_say (text : List UInt8) : Inert (say text) := inert_act rfl

theorem inert_fgets (size : Nat) : Inert (fgets w size) := by
  apply always_bind inert_order
  · exact fun app => inert_order.refl app
  intro app
  apply always_bind inert_order
  · exact always_update fun app => ⟨⟨rfl, [.asked], rfl, rfl⟩, rfl⟩
  · exact fun _ => always_pure inert_order _

theorem inert_prompt : Inert (promptPassword w) := by
  apply always_bind inert_order (inert_say _)
  intro _
  refine always_ite ?_ ?_
  · exact always_bind inert_order (inert_fgets 129) fun _ => always_pure inert_order _
  · apply always_bind inert_order (inert_act rfl)
    intro _
    apply always_bind inert_order (inert_fgets 129)
    intro line
    apply always_bind inert_order (inert_act rfl)
    intro _
    cases line with
    | none => exact always_pure inert_order _
    | some line => exact always_bind inert_order (inert_say _) fun _ => always_pure inert_order _

/-- What such steps keep. -/
theorem triple_inert {α : Type} {P : App → Prop} {m : Main α} (inert : Inert m)
    (carries : ∀ app app', Unjudging app app' → app'.client = app.client → P app → P app')
    (ends : ∀ app, P app → Gated noxtls w s files app) :
    Triple P m (fun _ => P) fun _ => Gated noxtls w s files := by
  constructor
  intro app holds
  have step := inert app
  revert step
  rcases m.run app with ⟨o, app'⟩
  cases o with
  | ok a => exact fun step => carries app app' step.1 step.2 holds
  | err e => exact fun step => ends app' (carries app app' step.1 step.2 holds)
  | stuck => exact fun step => ends app' (carries app app' step.1 step.2 holds)

theorem speaking_inert {α : Type} {m : Main α} (inert : Inert m) :
    Triple (Speaking noxtls w s files) m (fun _ => Speaking noxtls w s files) fun _ => Gated noxtls w s files :=
  triple_inert inert (fun _ _ onward same speaking => speaking.onward onward same) fun _ => Speaking.gated

theorem unspoken_inert {α : Type} {m : Main α} (inert : Inert m) :
    Triple (Unspoken noxtls w files) m (fun _ => Unspoken noxtls w files) fun _ => Gated noxtls w s files :=
  triple_inert inert (fun _ _ onward same unspoken => unspoken.onward onward same) fun _ => Unspoken.gated

theorem gated_inert {α : Type} {m : Main α} (inert : Inert m) :
    Triple (Gated noxtls w s files) m (fun _ => Gated noxtls w s files) fun _ => Gated noxtls w s files :=
  triple_inert inert (fun _ _ onward same gated => gated.onward onward same) fun _ => id

/-! ### Behind the verdict -/

/-- A call behind the verdict. -/
theorem speaking_calls {α : Type} {m : Prog Client α} (call : MainCall noxtls w.env m) :
    Triple (Speaking noxtls w s files) (onClient m) (fun _ => Speaking noxtls w s files)
      fun _ => Gated noxtls w s files := by
  apply triple_zoom
  rintro app ⟨old, q, blob, keys, trusting, sound, keeping⟩
  constructor
  rintro _ rfl
  have sounds : Stays (Sound noxtls w.env) (Sound noxtls w.env) m := mainCall_stays calling_sound sound_asks
    (fun e h noted holds => holds.log (by rcases noted with rfl | ⟨_, rfl⟩ | ⟨_, rfl⟩ <;> simp [Harmless])) call
  have keeps : Stays (Keeping old keys) (Keeping old keys) m := mainCall_stays calling_bound
    (fun _ holds => holds.quiet (quiet_of_eq rfl rfl)) (fun e h _ holds => holds.log e) call
  have sound' := sounds.keeps app.client sound
  have keeping' := keeps.keeps app.client keeping
  have speaking : Speaking noxtls w s files { app with client := (m.run app.client).2 } :=
    ⟨old, q, blob, keys, trusting.onward (onward_client _ app), sound', keeping'⟩
  revert speaking
  rw [show clientFacet.get app = app.client from rfl]
  rcases m.run app.client with ⟨o, client⟩
  cases o with
  | ok a => exact id
  | err e => exact id
  | stuck => exact Speaking.gated

/-- Closing says nothing. -/
theorem gated_close : Triple (Gated noxtls w s files) (onClient close) (fun _ => Gated noxtls w s files)
    fun _ => Gated noxtls w s files := by
  apply triple_zoom
  intro app gated
  constructor
  rintro _ rfl
  refine ⟨gated.sound.closed, gated.filed.onward (onward_client _ app), ?_⟩
  exact gated.gated.imp id fun ⟨old, q, blob, keys, trusting, rest⟩ =>
    ⟨old, q, blob, keys, trusting.onward (onward_client _ app), rest⟩

theorem gated_hangUp {α : Type} {Q : α → App → Prop} (message : List UInt8) :
    Triple (Gated noxtls w s files) (hangUp sock message : Main α) Q fun _ => Gated noxtls w s files := by
  apply triple_bind (gated_inert (inert_say message))
  intro _
  apply triple_bind (gated_inert (inert_act rfl))
  exact fun _ => triple_fail _ fun _ => id

theorem gated_leave {α : Type} {Q : α → App → Prop} (message : List UInt8) :
    Triple (Gated noxtls w s files) (leave sock message : Main α) Q fun _ => Gated noxtls w s files := by
  apply triple_bind (gated_inert (inert_say message))
  intro _
  apply triple_bind gated_close
  intro _
  apply triple_bind (gated_inert (inert_act rfl))
  exact fun _ => triple_fail _ fun _ => id

theorem conducting_speaking (batchMode : Bool) :
    Conducting noxtls w batchMode sock (Speaking noxtls w s files) fun _ => Gated noxtls w s files where
  speaks _ app speaking := speaking.onward (onward_act rfl app) rfl
  prompts _ := speaking_inert inert_prompt
  calls := speaking_calls
  leaves message := (gated_leave message).mono (fun _ => Speaking.gated) (fun _ _ => id) fun _ _ => id

end Gate

/-! ### Up to the verdict -/

section Greeting

variable {noxtls : Noxtls} {w : Surroundings} {s : Options} {files : List UInt8 → Option (List UInt8)} {sock : Nat}

theorem chatter_harmless : KexChatter Harmless where
  toBackground := background_harmless
  toHearing := hearing_harmless
  toPresenting := ⟨by simp [Harmless], by simp [Harmless]⟩
  speaks := by
    intro number known payload heads
    refine ⟨harmless_sending ?_ heads, by simp [Harmless]⟩
    rcases known with rfl | rfl | rfl <;> decide
  entered := by simp [Harmless]
  left := by simp [Harmless]
  done := by simp [Harmless]

/-- Connecting says nothing confidential. -/
theorem connect_silent : Stays (fun h => Silent h.trace) (fun h => Silent h.trace) (connect noxtls w.env) := by
  apply stays_of_always (R := Since Harmless) (fun _ => id)
  · exact fun h => (connect_since chatter_harmless h).keeps h ((quiet_order _ _).refl h)
  · rintro h h' ⟨-, new, grown, fine⟩ silent e mem
    rw [grown] at mem
    exact (List.mem_append.1 mem).elim (silent e) fun mem => (fine e mem).1

theorem setTarget_silent (username host : List UInt8) :
    Stays (fun h => Sound noxtls w.env h ∧ Silent h.trace) (fun h => Sound noxtls w.env h ∧ Silent h.trace)
      (setTarget username host) := by
  have sets : ∀ f : Client → Client, (∀ c, flags (f c) = flags c) →
      Stays (fun h => Sound noxtls w.env h ∧ Silent h.trace) (fun h => Sound noxtls w.env h ∧ Silent h.trace)
        (Transport.modify f) := fun f same => stays_modify fun h both => ⟨both.1.update same, both.2⟩
  unfold setTarget
  split
  · exact stays_fail _
  · apply stays_bind (sets (setUsername _) fun _ => rfl)
    intro _
    split
    · exact stays_fail _
    · exact sets (setHost _) fun _ => rfl

/-- The connection is made, and this is the fingerprint that the caller is shown. -/
structure Presented (noxtls : Noxtls) (w : Surroundings) (files : List UInt8 → Option (List UInt8))
    (fingerprint : List UInt8) (app : App) : Prop extends Unspoken noxtls w files app where
  connected : ∃ blob keys, Bound noxtls w.env app.client.trace blob keys ∧ HasKeys app.client.self keys ∧
    noxtls.hash blob = some fingerprint

theorem Presented.onward {app app' : App} {fingerprint : List UInt8} (shown : Presented noxtls w files fingerprint app)
    (onward : Unjudging app app') (same : app'.client = app.client) : Presented noxtls w files fingerprint app' :=
  ⟨shown.toUnspoken.onward onward same, same ▸ shown.connected⟩

theorem shown_inert {α : Type} {m : Main α} (inert : Inert m) {fingerprint : List UInt8} :
    Triple (Presented noxtls w files fingerprint) m (fun _ => Presented noxtls w files fingerprint)
      fun _ => Gated noxtls w s files :=
  triple_inert inert (fun _ _ onward same shown => shown.onward onward same) fun _ shown => shown.toUnspoken.gated

/-- `connect` from a fresh context. -/
theorem unspoken_connect : Triple (Unspoken noxtls w files) (onClient (connect noxtls w.env))
    (fun connected app => Unspoken noxtls w files app ∧ (connected.isOk = true → Established noxtls w.env app.client))
    fun _ => Gated noxtls w s files := by
  apply triple_zoom
  intro app unspoken
  constructor
  rintro _ rfl
  have sound := connect_sound.keeps app.client unspoken.sound
  have silent := (@connect_silent noxtls w).keeps app.client unspoken.silent
  have bound := (@connect_bound noxtls w.env).ends app.client trivial
  rw [show clientFacet.get app = app.client from rfl]
  revert sound silent bound
  rcases (connect noxtls w.env).run app.client with ⟨o, client⟩
  intro sound silent bound
  have after : Unspoken noxtls w files { app with client := client } :=
    ⟨sound, silent, unspoken.unjudged, unspoken.files⟩
  cases o with
  | ok _ => exact ⟨after, fun _ => bound⟩
  | err e => exact ⟨after, fun ok => by cases ok⟩
  | stuck => exact after.gated

/-- Where the verdict leads to. -/
def Decided (noxtls : Noxtls) (w : Surroundings) (s : Options) (files : List UInt8 → Option (List UInt8))
    (trusted : Bool) (app : App) : Prop :=
  if trusted then Speaking noxtls w s files app else Gated noxtls w s files app

theorem Decided.gated {trusted : Bool} {app : App} (decided : Decided noxtls w s files trusted app) :
    Gated noxtls w s files app := by
  unfold Decided at decided
  split at decided
  · exact decided.gated
  · exact decided

/-- What a verdict does. -/
theorem judge_run (q : Query) (path : List UInt8) (app : App) :
    ∃ text, (judge q path).run app = (.ok (verifyHostKey q ((app.files path).getD [])).1.trusted,
      { app with
        files := if (verifyHostKey q ((app.files path).getD [])).1 = .saved then
            fun p => if p = path then some (verifyHostKey q ((app.files path).getD [])).2 else app.files p
          else app.files
        actions := app.actions ++ [.printed text] ++
          [.judged q (verifyHostKey q ((app.files path).getD [])).1 app.client.trace.length] }) := by
  refine ⟨(verifyHostKey q ((app.files path).getD [])).1.prints q ((app.files path).getD []) path, ?_⟩
  unfold judge
  rw [state_bind_run]
  dsimp only
  rcases verifyHostKey q ((app.files path).getD []) with ⟨verdict, content⟩
  by_cases saved : verdict = .saved
  · simp [keepFile, saved, say, act, addAction, writeFile]
  · simp [keepFile, saved, say, act, addAction]

theorem shown_judge {fingerprint : List UInt8} {q : Query} (asks : Asks w s q) (print : q.fingerprint = fingerprint) :
    Triple (Presented noxtls w files fingerprint) (judge q (pathOf w s)) (Decided noxtls w s files)
      fun _ => Gated noxtls w s files := by
  constructor
  intro app shown
  have known : (app.files (pathOf w s)).getD [] = knownTo w s files := by rw [shown.files, knownTo]
  obtain ⟨text, ran⟩ := judge_run q (pathOf w s) app
  rw [ran, known, shown.files]
  obtain ⟨blob, keys, bound, has, hashed⟩ := shown.connected
  generalize is : (verifyHostKey q (knownTo w s files)).1 = verdict
  have once : judgements (app.actions ++ [.printed text] ++ [.judged q verdict app.client.trace.length]) =
      [(q, verdict)] := by
    rw [judgements_append, judgements_append, shown.unjudged]
    rfl
  have after : filesAfter w s files q = if verdict = .saved then
      fun p => if p = pathOf w s then some (verifyHostKey q (knownTo w s files)).2 else files p else files := by
    rw [filesAfter, is]
  show Decided noxtls w s files verdict.trusted _
  cases trusted : verdict.trusted with
  | true =>
      refine ⟨app.client.trace, q, blob, keys, ?_, shown.sound, [], by simp, fun _ => has, audited_nil⟩
      exact {
        silent := shown.silent
        asks := asks
        grounds := (trusted_iff q _).1 (is ▸ trusted)
        print := by rw [print, hashed]
        bound := bound
        judged := by simp [is]
        once := by rw [once, is]
        files := after.symm }
  | false =>
      refine ⟨shown.sound, .inr ⟨q, asks, by rw [once, is], after.symm⟩, .inl shown.silent⟩

theorem shown_verify (fingerprint : List UInt8) :
    Triple (Presented noxtls w files fingerprint) (verifyHostKeyOnDisk w s fingerprint) (Decided noxtls w s files)
      fun _ => Gated noxtls w s files := by
  have refuses : Triple (Presented noxtls w files fingerprint) (pure false : Main Bool) (Decided noxtls w s files)
      fun _ => Gated noxtls w s files := triple_pure _ fun _ shown => shown.toUnspoken.gated
  refine triple_ite (fun _ => refuses) fun _ => ?_
  apply triple_bind (shown_inert (inert_say _))
  intro _
  refine triple_ite (fun _ => ?_) fun _ => ?_
  · exact triple_bind (shown_inert (inert_say _)) fun _ => refuses
  have asked : ∀ q path, Inert (askAbout w q path) := by
    intro q path
    apply always_bind inert_order
    · exact fun app => inert_order.refl app
    intro app
    refine always_ite ?_ (always_pure inert_order _)
    exact always_bind inert_order (inert_say _) fun _ => inert_fgets 16
  apply triple_bind (shown_inert (asked _ _))
  exact fun answer => shown_judge ⟨rfl, rfl, rfl, rfl, rfl, rfl⟩ rfl

/-- The start of `main`. -/
structure Unstarted (files : List UInt8 → Option (List UInt8)) (app : App) : Prop where
  silent : app.client.trace = []
  unjudged : judgements app.actions = []
  files : app.files = files

theorem Unstarted.starts {app : App} (fresh : Unstarted files app) (port : Nat) :
    Unspoken noxtls w files (startClient port app) where
  sound := by
    refine ⟨fun on => absurd on (by simp [startClient, Client.init]), fun on => absurd on (by simp [startClient, Client.init]),
      fun on => absurd on (by simp [startClient, Client.init]), ?_⟩
    show Audited (Guarded noxtls w.env) app.client.trace
    rw [fresh.silent]
    exact audited_nil
  silent := by
    intro e mem
    rw [show (startClient port app).client.trace = app.client.trace from rfl, fresh.silent] at mem
    cases mem
  unjudged := fresh.unjudged
  files := fresh.files

theorem greets_speaking : Triple (Unstarted files) (greet noxtls w s sock) (fun _ => Speaking noxtls w s files)
    fun _ => Gated noxtls w s files := by
  apply triple_bind (Q := fun _ => Unspoken noxtls w files)
  · exact triple_update fun _ fresh => fresh.starts _
  intro _
  have leaves : ∀ {α : Type} {Q : α → App → Prop} (message : List UInt8), Triple (Unspoken noxtls w files)
      (hangUp sock message : Main α) Q fun _ => Gated noxtls w s files := fun message =>
    (gated_hangUp message).mono (fun _ => Unspoken.gated) (fun _ _ => id) fun _ _ => id
  have targets : Triple (Unspoken noxtls w files) (onClient (setTarget s.username s.host))
      (fun _ => Unspoken noxtls w files) fun _ => Gated noxtls w s files := by
    apply triple_zoom
    intro app unspoken
    constructor
    rintro _ rfl
    have both := (@setTarget_silent noxtls w s.username s.host).keeps app.client ⟨unspoken.sound, unspoken.silent⟩
    rw [show clientFacet.get app = app.client from rfl]
    revert both
    rcases (setTarget s.username s.host).run app.client with ⟨o, client⟩
    intro both
    have after : Unspoken noxtls w files { app with client := client } :=
      ⟨both.1, both.2, unspoken.unjudged, unspoken.files⟩
    cases o with
    | ok _ => exact after
    | err e => exact after
    | stuck => exact after.gated
  apply triple_bind targets
  intro targeted
  cases targeted with
  | error _ => exact leaves _
  | ok _ =>
      apply triple_bind unspoken_connect
      intro connected
      cases connected with
      | error _ => exact (leaves _).mono (fun _ => And.left) (fun _ _ => id) fun _ _ => id
      | ok _ =>
          apply triple_state_bind
          rintro app ⟨unspoken, established⟩
          have established := established rfl
          obtain ⟨keys, bound, has⟩ := established.bound
          have shown : Presented noxtls w files app.client.self.serverHostKeyFingerprint app :=
            ⟨unspoken, _, keys, bound, has, established.printed.hash⟩
          have fingerprint : getServerHostKeyFingerprint 32 app.client.self =
              .ok app.client.self.serverHostKeyFingerprint := by
            rw [getServerHostKeyFingerprint, if_neg (by simp [established.printed.ready]), if_neg (by decide)]
          simp only [fingerprint]
          refine Triple.mono (P := Presented noxtls w files app.client.self.serverHostKeyFingerprint) ?_
            (fun _ is => is ▸ shown) (fun _ _ => id) fun _ _ => id
          apply triple_bind (shown_inert (inert_say _))
          intro _
          apply triple_bind (shown_inert (inert_say _))
          intro _
          apply triple_bind (shown_verify _)
          intro trusted
          cases trusted with
          | true => exact triple_pure _ fun _ => id
          | false => exact gated_leave _

theorem inert_establish : Inert (establish w s) := by
  have tries : ∀ addresses, Inert (tryAddresses s.connectTimeoutMs addresses) := by
    intro addresses
    induction addresses with
    | nil => exact always_pure inert_order _
    | cons address rest ih =>
        refine always_ite ih ?_
        apply always_bind inert_order
        · exact fun app => ⟨⟨rfl, [.opened app.sockets], rfl, rfl⟩, rfl⟩
        · intro sock
          refine always_ite (always_pure inert_order _) ?_
          exact always_bind inert_order (inert_act rfl) fun _ => ih
  have connects : Inert (connectTcp w s.connectTimeoutMs) := by
    apply always_bind inert_order
    · exact fun app => inert_order.refl app
    intro app
    apply always_bind inert_order
    · exact always_update fun app => ⟨⟨rfl, [], by simp [countLookup], rfl⟩, rfl⟩
    · exact fun _ => tries _
  have dials : ∀ retries, Inert (dial w s.connectTimeoutMs retries) := by
    intro retries
    induction retries with
    | zero => exact connects
    | succ retries ih =>
        apply always_bind inert_order connects
        intro reached
        cases reached with
        | some sock => exact always_pure inert_order _
        | none => exact always_bind inert_order (inert_act rfl) fun _ => ih
  apply always_bind inert_order (dials _)
  intro reached
  cases reached with
  | none => exact always_bind inert_order (inert_say _) fun _ => always_fail inert_order _
  | some sock =>
      refine always_ite ?_ (always_pure inert_order _)
      apply always_bind inert_order (inert_say _)
      intro _
      exact always_bind inert_order (inert_act rfl) fun _ => always_fail inert_order _

/-- The run from its start. -/
theorem runs_gated (inbox : List UInt8) (turns : Nat) :
    Gated noxtls w s files ((runOptions noxtls w s turns).run (startup files inbox)).2 := by
  -- until the context is set up the client is as it was started
  let Started (app : App) : Prop := Unstarted files app ∧ app.client = (startup files inbox).client
  have gated : ∀ app, Started app → Gated noxtls w s files app := by
    rintro app ⟨fresh, is⟩
    refine ⟨?_, .inl ⟨fresh.unjudged, fresh.files⟩, .inl ?_⟩
    · rw [is]
      exact sound_init 22 inbox
    · rw [fresh.silent]
      exact fun e mem => absurd mem List.not_mem_nil
  have establishes : Triple Started (establish w s) (fun _ => Started) fun _ => Gated noxtls w s files := by
    refine triple_inert inert_establish ?_ gated
    rintro app app' onward same ⟨fresh, is⟩
    exact ⟨⟨same ▸ fresh.silent, onward.judgements.trans fresh.unjudged, onward.1.trans fresh.files⟩, same.trans is⟩
  have runs : Triple Started (runOptions noxtls w s turns) (fun _ => Gated noxtls w s files)
      fun _ => Gated noxtls w s files := by
    apply triple_bind establishes
    intro sock
    have converses : Triple Started (converse noxtls w s sock turns) (fun _ => Gated noxtls w s files)
        fun _ => Gated noxtls w s files :=
      ((conducting_speaking s.batchMode).converses greets_speaking turns).mono (fun _ => And.left)
        (fun _ _ => Speaking.gated) fun _ _ => id
    apply triple_bind converses
    intro code
    apply triple_bind gated_close
    intro _
    exact triple_bind (gated_inert (inert_act rfl)) fun _ => triple_pure _ fun _ => id
  exact runs.leads _ ⟨⟨rfl, rfl, rfl⟩, rfl⟩

end Greeting

/-! ## Nothing before trust -/

/-- What is confidential goes out behind a verdict of this run: the host key whose fingerprint
was trusted has signed an exchange, and until another one was entered the keys come from it. -/
def Cleared (noxtls : Noxtls) (w : Surroundings) (files : List UInt8 → Option (List UInt8)) (argv : List Arg) (turns : Nat)
    (actions : List Action) (before : List (Event × Client)) (e : Event × Client) : Prop :=
  ∀ payload, e.1 = .sending payload → Confidential payload →
    ∃ s old new q verdict blob keys, optionsFor w files argv turns = some s ∧ before = old ++ new ∧ Silent old ∧
      .judged q verdict old.length ∈ actions ∧ Asks w s q ∧ Grounds q (knownTo w s files) ∧
      noxtls.hash blob = some q.fingerprint ∧ Bound noxtls w.env old blob keys ∧
      e.2.keyExchangeComplete = true ∧ (Unentered new → HasKeys e.2 keys)

/-- **Nothing before trust.**  In every run of `main`, whatever the server sends and the user
types, a service request, a password, a signature or a message of the connection protocol is
handed to the packet routine only behind a verdict that trusts the host key: it is the pinned
one, the known one, or one that the mode or the user accepts.  That key has signed the exchange
that the keys of the connection come from, until another exchange is entered. -/
theorem nothing_before_trust (noxtls : Noxtls) (w : Surroundings) (argv : List Arg) (turns : Nat)
    (files : List UInt8 → Option (List UInt8)) (inbox : List UInt8) :
    Audited (Cleared noxtls w files argv turns ((main noxtls w argv turns).run (startup files inbox)).2.actions)
      ((main noxtls w argv turns).run (startup files inbox)).2.client.trace := by
  rcases main_cases noxtls w argv turns (startup files inbox) with ⟨s, chosen, ran⟩ | ⟨-, more, -, ran⟩
  · have gated := @runs_gated noxtls w s files inbox turns
    rw [ran]
    intro before e after is payload sends secret
    rcases gated.gated with silent | ⟨old, q, blob, keys, trusting, new, grown, audited⟩
    · exact absurd secret (silent e (by rw [is]; simp) payload sends)
    · have keyed := (gated.sound.guarded before e after is payload sends secret).1
      rcases split_append (grown.symm.trans is) with ⟨rest, early⟩ | ⟨between, late, rfl⟩
      · exact absurd secret (trusting.silent e (by rw [early]; simp) payload sends)
      · exact ⟨s, old, between, q, _, blob, keys, chosen, late, trusting.silent, trusting.judged, trusting.asks,
          trusting.grounds, trusting.print, trusting.bound, keyed, audited between e after rfl⟩
  · rw [ran]
    exact audited_nil

namespace Home

/-- A client without a home directory. -/
def w : Surroundings where
  env := Probe.brisk
  home := none
  getaddrinfo _ := [⟨true, true, .done, true, true, true⟩]
  receiveTimeout := true
  sendTimeout := true
  mkdir _ := true
  appendable _ := true
  fgets _ := none
  tcgetattr := false
  tcsetattr := false
  stale _ := 0

def argv : List Arg :=
  [ascii "noxssh", ascii "--batch", ascii "--strict-host-key-checking", ascii "accept-new", ascii "--known-hosts-file",
    ascii "d/k", ascii "h"]

/-- What a server with this host key sends. -/
def answers (hostKey : List UInt8) : List UInt8 := Probe.greeting [Probe.kexinit, Probe.reply hostKey, [21]]

end Home

/-! ## A series of runs -/

/-- A run of the program: what surrounds it, its arguments, and what the server sends. -/
structure Invocation where
  w : Surroundings
  argv : List Arg
  turns : Nat
  inbox : List UInt8

def Invocation.run (noxtls : Noxtls) (i : Invocation) (files : List UInt8 → Option (List UInt8)) : App :=
  ((main noxtls i.w i.argv i.turns).run (startup files i.inbox)).2

/-- One run after the other, on the same files. -/
def series (noxtls : Noxtls) : List Invocation → (List UInt8 → Option (List UInt8)) → List App
  | [], _ => []
  | i :: later, files => i.run noxtls files :: series noxtls later (i.run noxtls files).files

/-- The file of known hosts counts: there is no pin, a mode that checks, and a host that can stand on a line. -/
structure Heeds (path : List UInt8) (w : Surroundings) (s : Options) : Prop where
  uses : pathOf w s = path
  isHost : IsHost s.host
  port : s.port < 65536
  checked : s.strictHostKeyChecking ≠ .no
  unpinned : s.pinnedHostkeyHex = []
  writable : (ensureKnownHostsDir w path && w.appendable path) = true

/-- In every run of the series. -/
def AllHeed (noxtls : Noxtls) (path : List UInt8) : List Invocation → (List UInt8 → Option (List UInt8)) → Prop
  | [], _ => True
  | i :: later, files =>
      (∀ s, optionsFor i.w files i.argv i.turns = some s → Heeds path i.w s) ∧
        AllHeed noxtls path later (i.run noxtls files).files

section Series

variable {noxtls : Noxtls} {path host hex : List UInt8} {port : Nat} {i : Invocation} {w : Surroundings} {s : Options}
  {files : List UInt8 → Option (List UInt8)} {q : Query}

/-- A file that was not saved to is what it was. -/
theorem verifyHostKey_unsaved (known : List UInt8) (unsaved : (verifyHostKey q known).1 ≠ .saved) :
    (verifyHostKey q known).2 = known := by
  have saves : (saveHost q known).1 ≠ .saved → (saveHost q known).2 = known := by
    rw [saveHost, appendKnownHost]
    cases q.writable with
    | true => exact fun apart => absurd rfl apart
    | false => exact fun _ => rfl
  revert unsaved
  rw [verifyHostKey]
  by_cases length : q.fingerprint.length ≠ 32
  · rw [if_pos length]
    exact fun _ => rfl
  rw [if_neg length]
  by_cases pinned : q.pinnedFingerprintHex ≠ []
  · rw [if_pos pinned]
    exact fun _ => rfl
  rw [if_neg pinned]
  cases lookupKnownHost known q.host q.port with
  | some _ => exact fun _ => rfl
  | none =>
      dsimp only
      rw [meetHost]
      cases q.strictHostKeyChecking with
      | yes => exact fun _ => rfl
      | no => exact fun _ => rfl
      | acceptNew => exact saves
      | ask =>
          dsimp only
          split_ifs
          · exact fun _ => rfl
          · rw [askUser]
            cases q.answer with
            | none => exact fun _ => rfl
            | some answer =>
                dsimp only
                split_ifs
                · exact saves
                · exact fun _ => rfl

theorem filesAfter_known : (filesAfter w s files q (pathOf w s)).getD [] = (verifyHostKey q (knownTo w s files)).2 := by
  rw [filesAfter]
  split_ifs with saved
  · exact congrArg (Option.getD · []) (if_pos rfl)
  · exact (verifyHostKey_unsaved _ saved).symm

/-- What a run makes of the file of known hosts: it stays complete, no record is lost, and
whoever was trusted has one. -/
structure Cared (path : List UInt8) (files : List UInt8 → Option (List UInt8)) (app : App) : Prop where
  complete : Complete ((app.files path).getD [])
  stays : ∀ host port hex, lookupKnownHost ((files path).getD []) host port = some hex →
    lookupKnownHost ((app.files path).getD []) host port = some hex
  trusted : ∀ call ∈ judgements app.actions, call.2.trusted = true →
    lookupKnownHost ((app.files path).getD []) call.1.host call.1.port = some (bytesToHex call.1.fingerprint)

theorem run_cares (heeds : ∀ s, optionsFor i.w files i.argv i.turns = some s → Heeds path i.w s)
    (complete : Complete ((files path).getD [])) : Cared path files (i.run noxtls files) := by
  have idle : ∀ app : App, app.files = files → (∀ call ∈ judgements app.actions, call.2.trusted = false) →
      Cared path files app := by
    rintro app same none
    exact ⟨same ▸ complete, fun _ _ _ found => same ▸ found, fun call mem trusted => by
      rw [none call mem] at trusted
      cases trusted⟩
  rw [Invocation.run]
  rcases main_cases noxtls i.w i.argv i.turns (startup files i.inbox) with ⟨s, chosen, ran⟩ | ⟨-, more, prints, ran⟩
  · obtain ⟨is, isHost, port, checked, unpinned, writable⟩ := heeds s chosen
    have filed := (@runs_gated noxtls i.w s files i.inbox i.turns).filed
    rw [← ran] at filed
    rcases filed with ⟨none, same⟩ | ⟨q, asks, once, after⟩
    · exact idle _ same (by rw [none]; simp)
    · have known : knownTo i.w s files = (files path).getD [] := by rw [knownTo, is]
      have content : ((((main noxtls i.w i.argv i.turns).run (startup files i.inbox)).2).files path).getD [] =
          (verifyHostKey q ((files path).getD [])).2 := by
        rw [after, ← is, filesAfter_known, knownTo]
      rw [known] at once
      by_cases length : q.fingerprint.length = 32
      · have ordinary : Ordinary q :=
          ⟨asks.host ▸ isHost, asks.port ▸ port, length, asks.mode ▸ checked, asks.pin ▸ unpinned, by
            rw [asks.writable, is, writable]⟩
        constructor
        · rw [content]
          rcases verifyHostKey_file ordinary ((files path).getD []) with ⟨same, -⟩ | ⟨-, appended⟩
          · rw [same]
            exact complete
          · rw [appended]
            exact complete_append q
        · intro host port hex found
          rw [content]
          exact lookup_stays ordinary (fun _ => complete) found
        · intro call mem trusted
          rw [once, List.mem_singleton] at mem
          subst mem
          rw [content]
          exact lookup_trusted ordinary (fun _ => complete) trusted
      · have refused : verifyHostKey q ((files path).getD []) = (.noFingerprint, (files path).getD []) := by
          rw [verifyHostKey]
          exact if_pos length
        apply idle
        · rw [after, filesAfter, known, refused]
          exact if_neg (by simp)
        · intro call mem
          rw [once, List.mem_singleton] at mem
          subst mem
          rw [refused]
          rfl
  · rw [ran]
    apply idle _ rfl
    have none : judgements more = [] := by
      rw [judgements, List.filterMap_eq_nil_iff]
      intro action mem
      rcases prints action mem with ⟨text, rfl⟩ | rfl <;> rfl
    simp [startup, none]

/-- Where there is a record it is the fingerprint of every later run that trusts the host. -/
theorem series_later {invocations : List Invocation} (heed : AllHeed noxtls path invocations files)
    (complete : Complete ((files path).getD [])) (found : lookupKnownHost ((files path).getD []) host port = some hex)
    {app : App} (mem : app ∈ series noxtls invocations files) {call : Query × Verdict}
    (judged : call ∈ judgements app.actions) (trusted : call.2.trusted = true) (sameHost : call.1.host = host)
    (samePort : call.1.port = port) : bytesToHex call.1.fingerprint = hex := by
  induction invocations generalizing files with
  | nil => cases mem
  | cons i later ih =>
      have cared := @run_cares noxtls path i files heed.1 complete
      have kept := cared.stays host port hex found
      rcases List.mem_cons.1 mem with rfl | mem
      · have own := cared.trusted call judged trusted
        rw [sameHost, samePort, kept] at own
        exact (Option.some.inj own).symm
      · exact ih heed.2 cared.complete kept mem

end Series

namespace Home

/-- A run against a server with this host key. -/
def meets (hostKey : List UInt8) : Invocation := ⟨w, argv, 20, answers hostKey⟩

def invocations : List Invocation := [meets (zeros 32), meets Probe.other]

def runs : List App := series Probe.noxtls invocations fun _ => none

/-- A run against a server that sends this reply. -/
def meetsReply (reply : List UInt8) : Invocation := ⟨w, argv, 20, Probe.greeting [Probe.kexinit, reply, [21]]⟩

theorem runs_eq : runs = series Probe.noxtls
    [meetsReply (Probe.replyFor (zeros 32) 3), meetsReply (Probe.replyFor Probe.other 35)] fun _ => none := by
  rw [← Probe.reply_zeros, ← Probe.reply_other]
  rfl

/-- Without a home directory the files do not matter. -/
theorem options_same (files : List UInt8 → Option (List UInt8)) (args : List Arg) :
    optionsFor w files args 20 = optionsFor w (fun _ => none) args 20 := by
  have homeless : getHomeDir w.home = none := rfl
  have load : loadConfig w files = loadConfig w (fun _ => none) := by
    funext hostAlias
    simp only [loadConfig, homeless, Option.bind_none]
  unfold optionsFor
  rw [load]

theorem heeds (files : List UInt8 → Option (List UInt8)) (s : Options) (is : optionsFor w files argv 20 = some s) :
    Heeds (ascii "d/k") w s := by
  have all : (optionsFor w (fun _ => none) argv 20).all (fun s => pathOf w s = ascii "d/k" ∧ s.host = ascii "h" ∧
      s.port = 22 ∧ s.strictHostKeyChecking = .acceptNew ∧ s.pinnedHostkeyHex = []) = true := by
    decide +kernel
  rw [← options_same files argv, is] at all
  obtain ⟨path, host, port, mode, pin⟩ := of_decide_eq_true all
  refine ⟨path, ?_, by rw [port]; decide, by rw [mode]; decide, pin, by decide +kernel⟩
  rw [host]
  exact (ordinary_met 0).isHost

end Home

end NoxSsh.Cli
