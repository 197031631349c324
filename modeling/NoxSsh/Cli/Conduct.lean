/-
# Cli.Conduct — what `main` does from the socket to the exit status

Behind the verdict on the host key `main` makes calls of the client library (`MainCall`), prints,
prompts for a password and may leave.  What these steps keep, the rest of `main` keeps
(`Conducting`).

Beside its connection `main` holds a socket, the echo of the terminal and the trust in a host
key.  An observer who keeps books on them (`Holdings`) never sees it break the rules: one socket
at a time, the echo off only behind a trusted host key and on again before the socket is
closed, and in batch mode no questions.  Whenever `main` returns, with whatever status, the
books are clear (`books_are_kept`).
-/
import NoxSsh.Cli.App
import NoxSsh.Theory.Machine

namespace NoxSsh.Cli

open Theory Proc Wire Transport Client

set_option autoImplicit false

/-! ## Steps -/

section Steps

variable {P : App → Prop} {E : Option Nat → App → Prop}

theorem triple_reads {α : Type} {k : App → Main α} {Q : α → App → Prop} (rest : ∀ app, P app → Triple P (k app) Q E) :
    Triple P (state >>= k) Q E :=
  ⟨fun app holds => (rest app holds).ends app holds⟩

theorem triple_act {Q : Unit → App → Prop} {action : Action} (post : ∀ app, P app → Q () (addAction action app)) :
    Triple P (act action) Q E :=
  triple_update post

/-- A call of the library does not touch what is beside the client. -/
theorem triple_onClient {α : Type} {m : Prog Client α} (beside : ∀ client app, P app → P { app with client := client })
    (stuck : ∀ app, P app → E none app) : Triple P (onClient m) (fun _ => P) E := by
  apply triple_zoom
  intro app holds
  constructor
  rintro _ rfl
  rcases m.run (clientFacet.get app) with ⟨o, client⟩
  cases o with
  | ok a => exact beside client app holds
  | err e => exact beside client app holds
  | stuck => exact stuck _ (beside client app holds)

end Steps

/-! ## The calls of `main` behind the verdict -/

/-- What the client library is used for once the host key is trusted. -/
inductive MainCall (noxtls : Noxtls) (env : Env) : {α : Type} → Prog Client α → Prop
  | privateKey (key : List UInt8) : MainCall noxtls env (setEd25519PrivateKey noxtls key)
  | password (password : List UInt8) : MainCall noxtls env (setPassword password)
  | authenticate : MainCall noxtls env (authenticate noxtls env)
  | openSession : MainCall noxtls env (openSession noxtls env)
  | exec (command : List UInt8) : MainCall noxtls env (exec noxtls env command)
  | shell (requestPty : Bool) : MainCall noxtls env (requestShellEx noxtls env requestPty)
  | output (intervals : Intervals) (turns : Nat) : MainCall noxtls env (commandOutput noxtls env intervals turns)
  | interactive (intervals : Intervals) (turns : Nat) : MainCall noxtls env (interactiveShell noxtls env intervals turns)

/-- What the loops put on record themselves. -/
def Noted (e : Event) : Prop := e = .outputStarted ∨ (∃ data, e = .printed data) ∨ ∃ t, e = .aliveFailed t

/-- No failure leaves a loop. -/
theorem stays_of_hangs {I : Host Client → Prop} {α : Type} {m : Prog Client α}
    (triple : Triple I m (fun _ => I) (Hangs I)) : Stays I I m :=
  triple.under fun _ never => never.elim

theorem stays_of_either {I : Host Client → Prop} {α : Type} {m : Prog Client (α × Alive)} {mark : α}
    (triple : Triple I m (OrFailed I I mark) (Hangs I)) : Stays I I m :=
  (triple.under fun _ never => never.elim).mono (fun _ => id) (fun _ _ either => either.elim id And.left) fun _ _ => id

section MainCall

variable {noxtls : Noxtls} {env : Env} {intervals : Intervals} {I J : Host Client → Prop}
  (calling : Calling noxtls env I J I) (asks : ∀ h, I h → I { h with tick := h.tick + 1 })
  (notes : ∀ e h, Noted e → I h → I { h with trace := h.trace ++ [(e, h.self)] })

include calling asks notes

theorem looping_of_calling : Looping noxtls env I I I where
  asks := asks
  rekeys := calling.serving.rekeys
  keepalives := calling.serving.sendsKeepalive
  fails h holds := notes _ h (.inr (.inr ⟨h.tick, rfl⟩)) holds
  weaker _ := id
  receives := calling.serving.receivesData (fun _ _ => calling.exitStatus _ _) maxDataLen
  prints data h holds := notes _ h (.inr (.inl ⟨data, rfl⟩)) holds

theorem printLoop_stays (turns : Nat) (a : Alive) : Stays I I (printLoop noxtls env intervals turns a) := by
  have looping := looping_of_calling calling asks notes
  induction turns generalizing a with
  | zero => exact stays_stall fun _ => id
  | succ turns ih =>
      apply stays_bind (stays_of_either (looping.toWaiting.waits _ _ _))
      rintro ⟨waited, a⟩
      cases waited with
      | aliveTimeout => exact stays_pure _
      | failed => exact stays_pure _
      | timeout => exact ih a
      | readable =>
          apply stays_bind (stays_attempt looping.receives)
          intro received
          match received with
          | none => exact stays_pure _
          | some [] => exact stays_pure _
          | some (byte :: data) =>
              apply stays_bind (stays_of_hangs (looping.logsOutput _))
              intro _
              exact stays_bind (stays_of_hangs (looping.toWaiting.hears a)) fun a => ih a

theorem commandOutput_stays (turns : Nat) : Stays I I (commandOutput noxtls env intervals turns) := by
  apply stays_bind
  · apply stays_bind (stays_log fun h => notes _ h (.inl rfl))
    intro _
    apply stays_bind
    · exact stays_bind (triple_ask asks) fun _ => stays_pure _
    · exact fun a => printLoop_stays calling asks notes turns a
  · intro _
    exact triple_self_bind fun _ => stays_pure _

theorem shellTurn_stays (a : Alive) : Stays I I (shellTurn noxtls env intervals a) := by
  have looping := looping_of_calling calling asks notes
  have drains : ∀ wait a, Stays I I (drainShellOutput noxtls env intervals wait a) := fun wait a =>
    stays_of_either (looping.drains wait a)
  have takes : ∀ a, Stays I I (takeInput noxtls env a) := by
    intro a
    apply stays_bind (triple_ask asks)
    intro line
    cases line with
    | none => exact stays_pure _
    | some line =>
        apply stays_ite (stays_pure _)
        apply stays_bind (stays_attempt (calling.sendsData line))
        intro sent
        cases sent with
        | none => exact stays_pure _
        | some _ =>
            exact stays_bind (stays_of_hangs (looping.toWaiting.hears a)) fun _ => stays_pure _
  apply stays_bind (drains 250 a)
  rintro ⟨ended, a⟩
  dsimp only
  cases leftBy ended with
  | some shellEnd => exact stays_pure _
  | none =>
      apply stays_bind (takes a)
      intro taken
      cases taken with
      | error shellEnd => exact stays_pure _
      | ok a =>
          apply stays_bind (drains 300 a)
          rintro ⟨ended, a⟩
          dsimp only
          cases leftBy ended with
          | some shellEnd => exact stays_pure _
          | none => exact stays_pure _

theorem interactiveShell_stays (turns : Nat) : Stays I I (interactiveShell noxtls env intervals turns) := by
  have loops : ∀ turns a, Stays I I (shellLoop noxtls env intervals turns a) := by
    intro turns
    induction turns with
    | zero => exact fun _ => stays_stall fun _ => id
    | succ turns ih =>
        intro a
        apply stays_bind (shellTurn_stays calling asks notes a)
        intro turned
        cases turned with
        | error shellEnd => exact stays_pure _
        | ok a => exact ih a
  apply stays_bind
  · exact stays_bind (triple_ask asks) fun _ => stays_pure _
  · exact fun a => loops turns a

/-- What every call keeps, the calls of `main` keep. -/
theorem mainCall_stays {α : Type} {m : Prog Client α} (call : MainCall noxtls env m) : Stays I I m := by
  cases call with
  | privateKey key => exact calling.serving.setsPrivateKey key
  | password password => exact calling.stays (.setPassword password) (by simp) (by simp)
  | authenticate => exact calling.serving.authenticates
  | openSession => exact calling.serving.opensSession
  | exec command => exact calling.serving.execs command
  | shell requestPty => exact calling.serving.requestsShell requestPty
  | output intervals turns => exact commandOutput_stays calling asks notes turns
  | interactive intervals turns => exact interactiveShell_stays calling asks notes turns

end MainCall

/-! ## What the steps behind the verdict keep -/

/-- The steps of `main` keep `I` while it has the socket, and leave `E` where they end it. -/
structure Conducting (noxtls : Noxtls) (w : Surroundings) (batchMode : Bool) (sock : Nat) (I : App → Prop)
    (E : Option Nat → App → Prop) : Prop where
  speaks : ∀ text app, I app → I (addAction (.printed text) app)
  prompts : batchMode = false → Triple I (promptPassword w) (fun _ => I) E
  calls : ∀ {α : Type} {m : Prog Client α}, MainCall noxtls w.env m → Triple I (onClient m) (fun _ => I) E
  leaves : ∀ {α : Type} {Q : α → App → Prop} (message : List UInt8), Triple I (leave sock message : Main α) Q E

section Conducting

variable {noxtls : Noxtls} {w : Surroundings} {s : Options} {sock : Nat} {I : App → Prop} {E : Option Nat → App → Prop}
  (conducting : Conducting noxtls w s.batchMode sock I E)

include conducting

theorem Conducting.prints (text : List UInt8) : Triple I (say text) (fun _ => I) E :=
  triple_act (conducting.speaks text)

theorem Conducting.givesKey : Triple I (giveKey noxtls s sock) (fun _ => I) E := by
  refine triple_ite ?_ fun _ => triple_pure _ fun _ => id
  intro _
  apply triple_bind (conducting.calls (.privateKey _))
  intro given
  cases given with
  | error _ => exact conducting.leaves _
  | ok _ => exact triple_pure _ fun _ => id

theorem Conducting.loadsKey (path : List UInt8) : Triple I (loadKey noxtls w s sock path) (fun _ => I) E := by
  apply triple_reads
  intro app _
  split
  · exact conducting.leaves _
  · exact conducting.leaves _
  · apply triple_bind (conducting.calls (.privateKey _))
    intro given
    cases given with
    | error _ => exact conducting.leaves _
    | ok _ => exact triple_pure _ fun _ => id

theorem Conducting.findsKey : Triple I (findKey noxtls w s) (fun _ => I) E := by
  apply triple_reads
  intro app _
  have returns : ∀ found, Triple I (pure found : Main Bool) (fun _ => I) E := fun found => triple_pure _ fun _ => id
  split
  · exact returns _
  · split
    · exact returns _
    · exact triple_bind (conducting.prints _) fun _ => returns _
    · apply triple_bind (conducting.calls (.privateKey _))
      intro given
      cases given with
      | error _ => exact returns _
      | ok _ => exact triple_bind (conducting.prints _) fun _ => returns _

theorem Conducting.choosesKey : Triple I (chooseKey noxtls w s sock) (fun _ => I) E := by
  apply triple_bind conducting.givesKey
  intro _
  split
  · exact triple_bind (conducting.loadsKey _) fun _ => triple_pure _ fun _ => id
  · exact triple_ite (fun _ => triple_pure _ fun _ => id) fun _ => conducting.findsKey

theorem Conducting.passwordsFor (hasKey : Bool) : Triple I (passwordFor w s sock hasKey) (fun _ => I) E := by
  refine triple_ite ?_ fun _ => triple_pure _ fun _ => id
  rintro ⟨-, -, asking⟩
  apply triple_bind (conducting.prompts asking)
  intro typed
  cases typed with
  | none => exact conducting.leaves _
  | some password => exact triple_pure _ fun _ => id

theorem Conducting.choosesPassword (hasKey : Bool) : Triple I (choosePassword w s sock hasKey) (fun _ => I) E := by
  apply triple_bind (conducting.passwordsFor hasKey)
  intro password
  cases password with
  | none => exact triple_pure _ fun _ => id
  | some password =>
      apply triple_bind (conducting.calls (.password password))
      intro given
      cases given with
      | error _ => exact conducting.leaves _
      | ok _ => exact triple_pure _ fun _ => id

theorem Conducting.retries (asking : s.batchMode = false) (rejected : Except NetnoxReturn Unit) :
    Triple I (retryWithPassword noxtls w rejected) (fun _ => I) E := by
  apply triple_bind (conducting.prompts asking)
  intro typed
  cases typed with
  | none => exact triple_pure _ fun _ => id
  | some password =>
      apply triple_bind (conducting.calls (.password password))
      intro given
      cases given with
      | error _ => exact triple_pure _ fun _ => id
      | ok _ => exact conducting.calls .authenticate

theorem Conducting.authenticates (hasKey hasPassword : Bool) :
    Triple I (authenticateOrRetry noxtls w s hasKey hasPassword) (fun _ => I) E := by
  apply triple_bind (conducting.calls .authenticate)
  intro first
  split
  · refine triple_ite ?_ fun _ => triple_pure _ fun _ => id
    exact fun asking => conducting.retries asking.2.2 _
  · exact triple_pure _ fun _ => id

theorem Conducting.logsIn (hasKey hasPassword : Bool) :
    Triple I (logInAs noxtls w s sock hasKey hasPassword) (fun _ => I) E := by
  apply triple_bind (conducting.authenticates hasKey hasPassword)
  intro result
  split
  · exact conducting.leaves _
  · exact conducting.leaves _
  · exact conducting.prints _

theorem Conducting.works (turns : Nat) : Triple I (work noxtls w s sock turns) (fun _ => I) E := by
  apply triple_bind (conducting.calls .openSession)
  intro opened
  cases opened with
  | error _ => exact conducting.leaves _
  | ok _ =>
      dsimp only
      split
      · apply triple_bind (conducting.calls (.exec _))
        intro running
        cases running with
        | error _ => exact conducting.leaves _
        | ok _ => exact triple_bind (conducting.calls (.output _ _)) fun _ => triple_pure _ fun _ => id
      · apply triple_bind (conducting.calls (.shell _))
        intro running
        cases running with
        | error _ => exact conducting.leaves _
        | ok _ => exact triple_bind (conducting.calls (.interactive _ _)) fun _ => triple_pure _ fun _ => id

/-- What the greeting leads to is kept to the end. -/
theorem Conducting.converses {P : App → Prop} (greets : Triple P (greet noxtls w s sock) (fun _ => I) E) (turns : Nat) :
    Triple P (converse noxtls w s sock turns) (fun _ => I) E := by
  apply triple_bind greets
  intro _
  apply triple_bind conducting.choosesKey
  intro hasKey
  apply triple_bind (conducting.choosesPassword hasKey)
  intro hasPassword
  refine triple_ite ?_ fun _ => triple_pure _ fun _ => id
  exact fun _ => triple_bind (conducting.logsIn hasKey hasPassword) fun _ => conducting.works turns

end Conducting

/-! ## A run -/

/-- The program is started. -/
def startup (files : List UInt8 → Option (List UInt8)) (inbox : List UInt8) : App :=
  ⟨⟨Client.init 22, 0, inbox, []⟩, files, 0, 0, 0, []⟩

/-- The options that `main` comes to work with, if it does. -/
def optionsFor (w : Surroundings) (files : List UInt8 → Option (List UInt8)) (argv : List Arg) (turns : Nat) :
    Option Options :=
  match parseArgs argv turns with
  | some (.ok line) =>
      (line.target.bind splitTarget).map fun (user, hostAlias) =>
        optionsOf line user hostAlias (loadConfig w files hostAlias)
  | _ => none

/-- What is printed and no more. -/
def OnlyPrints (action : Action) : Prop := (∃ text, action = .printed text) ∨ action = .usage

/-- `main` works with its options, or it prints something and returns, or it is stuck in its arguments. -/
theorem main_cases (noxtls : Noxtls) (w : Surroundings) (argv : List Arg) (turns : Nat) (app : App) :
    (∃ s, optionsFor w app.files argv turns = some s ∧
        (main noxtls w argv turns).run app = (runOptions noxtls w s turns).run app) ∨
      optionsFor w app.files argv turns = none ∧ ∃ more, (∀ action ∈ more, OnlyPrints action) ∧
        ((main noxtls w argv turns).run app).2 = { app with actions := app.actions ++ more } := by
  unfold main optionsFor
  cases parseArgs argv turns with
  | none => exact .inr ⟨rfl, [], by simp, by simp⟩
  | some parsed =>
      cases parsed with
      | error exit =>
          right
          refine ⟨rfl, ?_⟩
          cases usage : exit.usage with
          | true =>
              refine ⟨[.printed exit.prints, .usage], by simp [OnlyPrints], ?_⟩
              simp [usage, say, act, addAction]
          | false =>
              refine ⟨[.printed exit.prints], by simp [OnlyPrints], ?_⟩
              simp [usage, say, act, addAction]
      | ok line =>
          dsimp only
          cases line.target.bind splitTarget with
          | none => exact .inr ⟨rfl, [.printed _], by simp [OnlyPrints], rfl⟩
          | some target =>
              obtain ⟨user, hostAlias⟩ := target
              exact .inl ⟨optionsOf line user hostAlias (loadConfig w app.files hostAlias), rfl, state_bind_run _ _⟩

/-! ## The books on a run -/

/-- What `main` holds: a socket, the trust in the key of the host, the echo of the terminal. -/
structure Holdings where
  sock : Option Nat
  trusted : Bool
  echo : Bool
  deriving DecidableEq

namespace Holdings

def clear : Holdings := ⟨none, false, true⟩

def enter (l : Holdings) : Action → Holdings
  | .opened sock => { l with sock := some sock }
  | .closed _ => { l with sock := none, trusted := false }
  | .judged _ verdict _ => { l with trusted := verdict.trusted }
  | .echo on => { l with echo := on }
  | .printed _ | .usage | .slept | .asked => l

/-- The rules. -/
def Allows (batchMode : Bool) (l : Holdings) : Action → Prop
  | .printed _ => True
  | .usage | .slept | .opened _ => l.sock = none
  | .closed sock => l.sock = some sock ∧ l.echo = true
  | .judged _ _ _ => l.sock.isSome ∧ l.trusted = false
  | .asked => l.sock.isSome ∧ batchMode = false
  | .echo on => l.trusted = true ∧ l.echo = !on

end Holdings

/-- The rules were kept, and the books stand at `l`. -/
def Booked (batchMode : Bool) (l : Holdings) (app : App) : Prop :=
  Audit Holdings.enter (Holdings.Allows batchMode) .clear app.actions ∧ app.actions.foldl Holdings.enter .clear = l

/-- Where `main` ends, the books are clear; where it has not come back, they are kept. -/
def Squared (batchMode : Bool) : Option Nat → App → Prop
  | some _ => Booked batchMode .clear
  | none => fun app => ∃ l, Booked batchMode l app

section Books

variable {noxtls : Noxtls} {w : Surroundings} {s : Options} {batchMode : Bool} {sock : Nat} {l : Holdings} {app : App}

theorem Booked.enter (booked : Booked batchMode l app) {a : Action} (allowed : l.Allows batchMode a) :
    Booked batchMode (l.enter a) (addAction a app) := by
  obtain ⟨audit, stands⟩ := booked
  constructor
  · rw [addAction, audit_append, stands]
    exact ⟨audit, allowed, trivial⟩
  · rw [addAction, List.foldl_append, stands]
    rfl

theorem triple_books {a : Action} (allowed : l.Allows batchMode a) :
    Triple (Booked batchMode l) (act a) (fun _ => Booked batchMode (l.enter a)) (Squared batchMode) :=
  triple_act fun _ booked => booked.enter allowed

theorem books_say (text : List UInt8) :
    Triple (Booked batchMode l) (say text) (fun _ => Booked batchMode l) (Squared batchMode) :=
  triple_books trivial

theorem books_onClient {α : Type} (m : Prog Client α) :
    Triple (Booked batchMode l) (onClient m) (fun _ => Booked batchMode l) (Squared batchMode) :=
  triple_onClient (fun _ _ => id) fun _ booked => ⟨l, booked⟩

theorem books_fgets (holding : l.sock.isSome) (asking : batchMode = false) (size : Nat) :
    Triple (Booked batchMode l) (fgets w size) (fun _ => Booked batchMode l) (Squared batchMode) := by
  apply triple_reads
  intro app _
  apply triple_bind (Q := fun _ => Booked batchMode l)
  · exact triple_update fun _ booked => booked.enter (a := .asked) ⟨holding, asking⟩
  · exact fun _ => triple_pure _ fun _ => id

theorem books_close {trusted : Bool} :
    Triple (Booked batchMode ⟨some sock, trusted, true⟩) (act (.closed sock)) (fun _ => Booked batchMode .clear)
      (Squared batchMode) :=
  triple_act fun _ booked => booked.enter (a := .closed sock) ⟨rfl, rfl⟩

theorem books_echo (on : Bool) :
    Triple (Booked batchMode ⟨some sock, true, !on⟩) (act (.echo on)) (fun _ => Booked batchMode ⟨some sock, true, on⟩)
      (Squared batchMode) :=
  triple_act fun _ booked => booked.enter (a := .echo on) ⟨rfl, rfl⟩

/-- The socket is closed and the program ends. -/
theorem books_leaves {α : Type} {Q : α → App → Prop} (message : List UInt8) {trusted : Bool} :
    Triple (Booked batchMode ⟨some sock, trusted, true⟩) (leave sock message : Main α) Q (Squared batchMode) := by
  apply triple_bind (books_say message)
  intro _
  apply triple_bind (books_onClient close)
  intro _
  exact triple_bind books_close fun _ => triple_fail _ fun _ => id

theorem books_hangUp {α : Type} {Q : α → App → Prop} (message : List UInt8) {trusted : Bool} :
    Triple (Booked batchMode ⟨some sock, trusted, true⟩) (hangUp sock message : Main α) Q (Squared batchMode) := by
  apply triple_bind (books_say message)
  intro _
  exact triple_bind books_close fun _ => triple_fail _ fun _ => id

/-- The echo is off while a password is typed. -/
theorem books_prompt (asking : batchMode = false) :
    Triple (Booked batchMode ⟨some sock, true, true⟩) (promptPassword w)
      (fun _ => Booked batchMode ⟨some sock, true, true⟩) (Squared batchMode) := by
  apply triple_bind (books_say _)
  intro _
  refine triple_ite (fun _ => ?_) fun _ => ?_
  · exact triple_bind (books_fgets rfl asking 129) fun _ => triple_pure _ fun _ => id
  apply triple_bind (books_echo false)
  intro _
  apply triple_bind (books_fgets rfl asking 129)
  intro line
  apply triple_bind (books_echo true)
  intro _
  cases line with
  | none => exact triple_pure _ fun _ => id
  | some line => exact triple_bind (books_say _) fun _ => triple_pure _ fun _ => id

theorem conducting_books :
    Conducting noxtls w batchMode sock (Booked batchMode ⟨some sock, true, true⟩) (Squared batchMode) where
  speaks _ _ booked := booked.enter trivial
  prompts := books_prompt
  calls _ := books_onClient _
  leaves message := books_leaves message

theorem books_openSocket :
    Triple (Booked batchMode .clear) openSocket (fun sock => Booked batchMode ⟨some sock, false, true⟩)
      (Squared batchMode) :=
  ⟨fun app booked => booked.enter (a := .opened app.sockets) rfl⟩

/-- Every socket that does not connect is closed. -/
theorem books_tryAddresses (timeoutMs : Nat) (addresses : List Address) :
    Triple (Booked batchMode .clear) (tryAddresses timeoutMs addresses)
      (fun reached => Booked batchMode ⟨reached, false, true⟩) (Squared batchMode) := by
  induction addresses with
  | nil => exact triple_pure _ fun _ => id
  | cons address rest ih =>
      refine triple_ite (fun _ => ih) fun _ => ?_
      apply triple_bind books_openSocket
      intro sock
      refine triple_ite (fun _ => triple_pure _ fun _ => id) fun _ => ?_
      exact triple_bind books_close fun _ => ih

theorem books_dial (timeoutMs retries : Nat) :
    Triple (Booked batchMode .clear) (dial w timeoutMs retries)
      (fun reached => Booked batchMode ⟨reached, false, true⟩) (Squared batchMode) := by
  have connects : Triple (Booked batchMode .clear) (connectTcp w timeoutMs)
      (fun reached => Booked batchMode ⟨reached, false, true⟩) (Squared batchMode) := by
    apply triple_reads
    intro app _
    apply triple_bind (Q := fun _ => Booked batchMode .clear)
    · exact triple_update fun _ => id
    · exact fun _ => books_tryAddresses _ _
  induction retries with
  | zero => exact connects
  | succ retries ih =>
      apply triple_bind connects
      intro reached
      cases reached with
      | some sock => exact triple_pure _ fun _ => id
      | none => exact triple_bind (triple_books (l := .clear) (a := .slept) rfl) fun _ => ih

theorem books_establish : Triple (Booked batchMode .clear) (establish w s)
    (fun sock => Booked batchMode ⟨some sock, false, true⟩) (Squared batchMode) := by
  apply triple_bind (books_dial _ _)
  intro reached
  cases reached with
  | none => exact triple_bind (books_say _) fun _ => triple_fail _ fun _ => id
  | some sock => exact triple_ite (fun _ => books_hangUp _) fun _ => triple_pure _ fun _ => id

/-- The verdict is given once, and the books tell what it was. -/
theorem books_judge (q : Query) (path : List UInt8) :
    Triple (Booked batchMode ⟨some sock, false, true⟩) (judge q path)
      (fun trusted => Booked batchMode ⟨some sock, trusted, true⟩) (Squared batchMode) := by
  apply triple_reads
  intro app _
  dsimp only
  apply triple_bind (books_say _)
  intro _
  apply triple_bind (Q := fun _ => Booked batchMode ⟨some sock, false, true⟩)
  · refine triple_ite (fun _ => ?_) fun _ => triple_pure _ fun _ => id
    exact triple_update fun _ => id
  · intro _
    apply triple_bind (triple_books (a := .judged q _ _) ⟨rfl, rfl⟩)
    exact fun _ => triple_pure _ fun _ => id

theorem books_askAbout (q : Query) (mode : q.batchMode = batchMode) (path : List UInt8) :
    Triple (Booked batchMode ⟨some sock, false, true⟩) (askAbout w q path)
      (fun _ => Booked batchMode ⟨some sock, false, true⟩) (Squared batchMode) := by
  apply triple_reads
  intro app _
  refine triple_ite (fun asks => ?_) fun _ => triple_pure _ fun _ => id
  have asking : batchMode = false := by
    rw [← mode]
    simpa using (Bool.and_eq_true_iff.1 asks).2
  exact triple_bind (books_say _) fun _ => books_fgets rfl asking 16

theorem books_verify (fingerprint : List UInt8) :
    Triple (Booked s.batchMode ⟨some sock, false, true⟩) (verifyHostKeyOnDisk w s fingerprint)
      (fun trusted => Booked s.batchMode ⟨some sock, trusted, true⟩) (Squared s.batchMode) := by
  refine triple_ite (fun _ => triple_pure _ fun _ => id) fun _ => ?_
  apply triple_bind (books_say _)
  intro _
  refine triple_ite (fun _ => ?_) fun _ => ?_
  · exact triple_bind (books_say _) fun _ => triple_pure _ fun _ => id
  apply triple_bind (books_askAbout _ (by rfl) _)
  exact fun _ => books_judge _ _

theorem books_greet : Triple (Booked s.batchMode ⟨some sock, false, true⟩) (greet noxtls w s sock)
    (fun _ => Booked s.batchMode ⟨some sock, true, true⟩) (Squared s.batchMode) := by
  apply triple_bind (Q := fun _ => Booked s.batchMode ⟨some sock, false, true⟩)
  · exact triple_update fun _ => id
  intro _
  apply triple_bind (books_onClient _)
  intro targeted
  cases targeted with
  | error _ => exact books_hangUp _
  | ok _ =>
      apply triple_bind (books_onClient _)
      intro connected
      cases connected with
      | error _ => exact books_hangUp _
      | ok _ =>
          apply triple_reads
          intro app _
          apply triple_bind (books_say _)
          intro _
          apply triple_bind (books_say _)
          intro _
          split
          · exact books_leaves _
          · apply triple_bind (books_verify _)
            intro trusted
            cases trusted with
            | true => exact triple_pure _ fun _ => id
            | false => exact books_leaves _

theorem books_runOptions (turns : Nat) : Triple (Booked s.batchMode .clear) (runOptions noxtls w s turns)
    (fun _ => Booked s.batchMode .clear) (Squared s.batchMode) := by
  apply triple_bind books_establish
  intro sock
  apply triple_bind (conducting_books.converses books_greet turns)
  intro code
  apply triple_bind (books_onClient close)
  intro _
  exact triple_bind books_close fun _ => triple_pure _ fun _ => id

/-- What is only printed is not in the books. -/
theorem books_idle {more : List Action} (idle : ∀ action ∈ more, OnlyPrints action) (booked : Booked batchMode .clear app) :
    Booked batchMode .clear { app with actions := app.actions ++ more } := by
  induction more generalizing app with
  | nil => simpa [Booked] using booked
  | cons action more ih =>
      have next : Booked batchMode .clear (addAction action app) := by
        rcases idle action (by simp) with ⟨text, rfl⟩ | rfl
        · exact booked.enter trivial
        · exact booked.enter (a := .usage) rfl
      simpa [addAction] using ih (fun a mem => idle a (List.mem_cons_of_mem _ mem)) next

end Books

end NoxSsh.Cli
