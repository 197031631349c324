/-
# Protocol.Negotiation — what two KEXINIT payloads agree on

The protocol chooses, field by field, the first algorithm of the client's list that
the server's list names too.  The programs compute no such choice: each looks for one
required name in every list of its peer and uses the same suite ever after.

The two agree because of what this side offers.  The client's lists start with the
required names, so if the server has one it is chosen (`firstCommon_head`).  The
server's lists hold nothing but the required names, so if the client has one no
other can be common (`firstCommon_only`).
-/
import NoxSsh.Client.Kex
import NoxSsh.Server.Kex

namespace NoxSsh.Protocol

open Theory Proc Wire Transport

set_option autoImplicit false

/-! ## The rule -/

/-- The names in a name list; the empty list has none. -/
def names (list : List UInt8) : List (List UInt8) := if list = [] then [] else list.splitOn 44

/-- RFC 4253 section 7.1: the first of the client's names that the server has too. -/
def firstCommon (client server : List UInt8) : Option (List UInt8) := (names client).find? (· ∈ names server)

/-- A KEXINIT payload taken apart. -/
structure Kexinit where
  cookie : List UInt8
  lists : List (List UInt8)
  follows : UInt8
  reserved : List UInt8
  length_cookie : cookie.length = 16
  length_lists : lists.length = 10
  length_reserved : reserved.length = 4

def Kexinit.bytes (k : Kexinit) : List UInt8 :=
  20 :: k.cookie ++ k.lists.flatMap sshString ++ k.follows :: k.reserved

/-- The algorithms for key exchange, host key, and cipher, MAC and compression in both directions. -/
def negotiated (client server : Kexinit) : List (Option (List UInt8)) :=
  (List.zipWith firstCommon client.lists server.lists).take 8

/-- The algorithms the programs use. -/
def suite : List String :=
  ["curve25519-sha256", "ssh-ed25519", "aes128-ctr", "aes128-ctr", "hmac-sha2-256", "hmac-sha2-256", "none", "none"]

section Rule

variable {client server token : List UInt8}

/-- A name that stands first on the client's list and somewhere on the server's. -/
theorem firstCommon_head (first : (names client).head? = some token) (has : token ∈ names server) :
    firstCommon client server = some token := by
  obtain ⟨more, is⟩ := List.head?_eq_some_iff.1 first
  rw [firstCommon, is]
  exact List.find?_cons_of_pos (by simpa using has)

/-- A name that is all the server's list has. -/
theorem firstCommon_only (only : names server = [token]) (has : token ∈ names client) :
    firstCommon client server = some token := by
  rw [firstCommon, only]
  cases found : (names client).find? (· ∈ [token]) with
  | none =>
      have absent := List.find?_eq_none.1 found token has
      simp at absent
  | some name =>
      have chosen := List.find?_some found
      simpa using chosen

end Rule

/-! ## The check of a list -/

theorem modifyHead_nil (words : List (List UInt8)) : words.modifyHead ([] ++ ·) = words := by
  cases words <;> simp

theorem namelistScan_iff (token word list : List UInt8) :
    namelistScan token word list = true ↔ token ∈ (list.splitOn 44).modifyHead (word ++ ·) := by
  induction list generalizing word with
  | nil =>
      rw [namelistScan, List.splitOn_nil, List.modifyHead_cons, List.append_nil, List.mem_singleton, beq_iff_eq]
      exact eq_comm
  | cons c rest ih =>
      rw [namelistScan, List.splitOn_cons_eq_if_modifyHead]
      by_cases comma : c = 44
      · rw [if_pos comma, if_pos (by simp [comma]), Bool.or_eq_true, ih, List.modifyHead_cons, List.append_nil,
          List.mem_cons, beq_iff_eq, modifyHead_nil, eq_comm]
      · rw [if_neg comma, if_neg (by simpa using comma), ih, List.modifyHead_modifyHead]
        have glue : (fun tail => word ++ [c] ++ tail) = (word ++ ·) ∘ (c :: ·) := by
          funext tail
          simp
        rw [glue]

/-- The loop finds a name exactly if it is one of the list's. -/
theorem namelistContains_iff {list token : List UInt8} :
    namelistContains list token = true ↔ token ≠ [] ∧ token ∈ names list := by
  rw [namelistContains, Bool.and_eq_true, decide_eq_true_eq, namelistScan_iff, modifyHead_nil, names]
  apply and_congr_right
  intro named
  split
  · rename_i none
    rw [none, List.splitOn_nil]
    simpa using named
  · rfl

/-- A payload that passes offers the name required of each list. -/
theorem kexinitOffers_inv {m : Mem} {len : Nat} (small : len < 4294967296) :
    ∀ (tokens : List String) (lists : List (List UInt8)) (off last : Nat), tokens.length ≤ lists.length →
      Holds m off (lists.flatMap sshString) → off + (lists.flatMap sshString).length ≤ len →
      kexinitOffers m len tokens off = some last →
      List.Forall₂ (fun list token => ascii token ∈ names list) (lists.take tokens.length) tokens := by
  intro tokens
  induction tokens with
  | nil =>
      intro lists off last _ _ _ _
      exact List.Forall₂.nil
  | cons token tokens ih =>
      intro lists off last enough stands inside offers
      cases lists with
      | nil => simp at enough
      | cons list lists =>
          simp only [List.flatMap_cons, List.length_append, length_sshString] at stands inside
          obtain ⟨here, later⟩ := holds_append.1 stands
          rw [length_sshString] at later
          rw [kexinitOffers, payloadReadStringView_holds here (by omega) small] at offers
          simp only [view_sshString here] at offers
          split at offers
          · rename_i offered
            refine List.Forall₂.cons (namelistContains_iff.1 offered).2 ?_
            exact ih lists _ last (by simpa using enough) later (by omega) offers
          · simp at offers

/-- What the checks of both programs establish. -/
theorem offers_required {peer : Kexinit} {rest : Mem} {last : Nat} (small : peer.bytes.length < 4294967296)
    (offers : kexinitOffers (memOf peer.bytes rest) peer.bytes.length requiredAlgs kexinitHeaderLen = some last) :
    List.Forall₂ (fun list token => ascii token ∈ names list) (peer.lists.take 8) suite := by
  have stands : Holds (memOf peer.bytes rest) 0 peer.bytes := holds_memOf _ _
  have size : peer.bytes.length = 17 + (peer.lists.flatMap sshString).length + 5 := by
    simp [Kexinit.bytes, peer.length_cookie, peer.length_reserved]
    omega
  unfold Kexinit.bytes at stands
  obtain ⟨front, -⟩ := holds_append.1 stands
  obtain ⟨-, lists⟩ := holds_append.1 front
  rw [List.length_cons, peer.length_cookie] at lists
  apply kexinitOffers_inv small requiredAlgs peer.lists 17 last
  · rw [peer.length_lists]
    decide
  · exact lists
  · omega
  · exact offers

/-! ## Both sides -/

section Choice

variable {own peer : List (List UInt8)} {tokens : List String}

theorem choice_client (offered : List.Forall₂ (fun list token => ascii token ∈ names list) peer tokens)
    (first : List.Forall₂ (fun list token => (names list).head? = some (ascii token)) own tokens) :
    List.zipWith firstCommon own peer = tokens.map fun token => some (ascii token) := by
  induction offered generalizing own with
  | nil => simp
  | cons has _ ih =>
      cases first with
      | cons first rest => rw [List.zipWith_cons_cons, firstCommon_head first has, ih rest, List.map_cons]

theorem choice_server (offered : List.Forall₂ (fun list token => ascii token ∈ names list) peer tokens)
    (only : List.Forall₂ (fun list token => names list = [ascii token]) own tokens) :
    List.zipWith firstCommon peer own = tokens.map fun token => some (ascii token) := by
  induction offered generalizing own with
  | nil => simp
  | cons has _ ih =>
      cases only with
      | cons only rest => rw [List.zipWith_cons_cons, firstCommon_only only has, ih rest, List.map_cons]

end Choice

/-! ## What this side builds -/

/-- A payload with these lists. -/
def Kexinit.of (lists : List String) (ten : lists.length = 10) (cookie : List UInt8) (length : cookie.length = 16) :
    Kexinit where
  cookie := cookie
  lists := lists.map ascii
  follows := 0
  reserved := be32 0
  length_cookie := length
  length_lists := by rw [List.length_map, ten]
  length_reserved := rfl

theorem Kexinit.bytes_of (lists : List String) (ten : lists.length = 10) (cookie : List UInt8)
    (length : cookie.length = 16) : (Kexinit.of lists ten cookie length).bytes = kexinitPayload lists cookie := rfl

/-- Both sides take a payload of these lists for what it is. -/
theorem Kexinit.of_payload {lists : List String} (ten : lists.length = 10) {cookie : List UInt8} (length : cookie.length = 16)
    {validate : Mem → Nat → Except NetnoxReturn Unit} {rest : Mem} (small : (kexinitPayload lists cookie).length ≤ 400)
    (valid : validate (memOf (kexinitPayload lists cookie) rest) (kexinitPayload lists cookie).length = .ok ()) :
    (Kexinit.of lists ten cookie length).bytes.length < 4294967296 ∧
      validate (memOf (Kexinit.of lists ten cookie length).bytes rest) (Kexinit.of lists ten cookie length).bytes.length =
        .ok () := by
  rw [Kexinit.bytes_of]
  exact ⟨Nat.lt_of_le_of_lt small (by decide), valid⟩

theorem client_builds {env : Env} {h h' : Host Client} {tx : List UInt8}
    (ran : (Client.buildKexinit env).run h = (.ok tx, h')) :
    ∃ cookie length, tx = (Kexinit.of Client.algLists rfl cookie length).bytes := by
  unfold Client.buildKexinit at ran
  obtain ⟨cookie, t, filled, built⟩ := bind_inv ran
  obtain ⟨is, -⟩ := lift_inv built
  have length : cookie.length = 16 := by
    rw [Client.fillRandom, ask_bind_run, pure_run, Prod.mk.injEq, Outcome.ok.injEq] at filled
    rw [← filled.1, length_slice]
  rw [buildKexinitPayload_some ((Client.length_kexinit length).trans (by decide))] at is
  exact ⟨cookie, length, (Option.some.inj is).symm⟩

theorem server_builds {env : Env} {h h' : Host Server} {tx : List UInt8}
    (ran : (Server.buildKexinit env).run h = (.ok tx, h')) :
    ∃ cookie length, tx = (Kexinit.of Server.algLists rfl cookie length).bytes := by
  unfold Server.buildKexinit at ran
  obtain ⟨cookie, t, filled, built⟩ := failAs_bind_inv ran
  obtain ⟨is, -⟩ := lift_inv built
  have length : cookie.length = 16 := by
    rw [Server.fillRandom, ask_bind_run] at filled
    cases random : env.getrandom h.tick with
    | none => simp [random] at filled
    | some bytes =>
        rw [random] at filled
        rw [← Outcome.ok.inj (Prod.mk.inj filled).1, length_slice]
  rw [buildKexinitPayload_some ((Server.length_kexinit length).trans (by decide))] at is
  exact ⟨cookie, length, (Option.some.inj is).symm⟩

/-- The client's lists start with the suite. -/
theorem client_first : List.Forall₂ (fun list token => (names list).head? = some (ascii token))
    ((Client.algLists.map ascii).take 8) suite := by
  unfold Client.algLists suite
  repeat' first | apply List.Forall₂.cons | exact List.Forall₂.nil
  all_goals decide

/-- The server's lists are the suite. -/
theorem server_only : List.Forall₂ (fun list token => names list = [ascii token])
    ((Server.algLists.map ascii).take 8) suite := by
  unfold Server.algLists suite
  repeat' first | apply List.Forall₂.cons | exact List.Forall₂.nil
  all_goals decide

/-- Whatever the peer lists, in whatever order: if this side's check passes, the rule
applied to the peer's payload and the one this side builds chooses the suite. -/
theorem negotiation_sound (env : Env) :
    (∀ (h h' : Host Client) (tx : List UInt8), (Client.buildKexinit env).run h = (.ok tx, h') →
      ∃ own : Kexinit, own.bytes = tx ∧ ∀ (peer : Kexinit) (rest : Mem), peer.bytes.length < 4294967296 →
        validateServerKexinit (memOf peer.bytes rest) peer.bytes.length = .ok () →
        negotiated own peer = suite.map fun name => some (ascii name)) ∧
    ∀ (h h' : Host Server) (tx : List UInt8), (Server.buildKexinit env).run h = (.ok tx, h') →
      ∃ own : Kexinit, own.bytes = tx ∧ ∀ (peer : Kexinit) (rest : Mem), peer.bytes.length < 4294967296 →
        validateClientKexinit (memOf peer.bytes rest) peer.bytes.length = .ok () →
        negotiated peer own = suite.map fun name => some (ascii name) := by
  constructor
  · intro h h' tx ran
    obtain ⟨cookie, length, rfl⟩ := client_builds ran
    refine ⟨_, rfl, ?_⟩
    intro peer rest small valid
    unfold validateServerKexinit at valid
    split at valid
    · simp at valid
    split at valid
    · simp at valid
    split at valid
    · simp at valid
    · rename_i last offers
      rw [negotiated, List.take_zipWith]
      apply choice_client (offers_required small offers)
      exact client_first
  · intro h h' tx ran
    obtain ⟨cookie, length, rfl⟩ := server_builds ran
    refine ⟨_, rfl, ?_⟩
    intro peer rest small valid
    unfold validateClientKexinit at valid
    split at valid
    · simp at valid
    split at valid
    · simp at valid
    split at valid
    · simp at valid
    · rename_i last offers
      rw [negotiated, List.take_zipWith]
      exact choice_server (offers_required small offers) server_only

theorem run_of_outcome {π α : Type} {m : Prog π α} {h : Host π} {o : Outcome NetnoxReturn α}
    (is : (m.run h).1 = o) : m.run h = (o, (m.run h).2) := by
  rw [← is]

/-- The two programs with each other. -/
theorem negotiation_sound_each_other :
    (∃ own : Kexinit, own.bytes = kexinitPayload Client.algLists (zeros 16) ∧
      negotiated own (Kexinit.of Server.algLists rfl (zeros 16) rfl) = suite.map fun name => some (ascii name)) ∧
    ∃ own : Kexinit, own.bytes = kexinitPayload Server.algLists (zeros 16) ∧
      negotiated (Kexinit.of Client.algLists rfl (zeros 16) rfl) own = suite.map fun name => some (ascii name) := by
  constructor
  · have built : ((Client.buildKexinit calm).run ⟨Client.init 22, 0, [], []⟩).1 =
        .ok (kexinitPayload Client.algLists (zeros 16)) := by
      rw [Client.buildKexinit_run, show slice (calm.rand 0) 0 16 = zeros 16 by decide,
        buildKexinitPayload_some ((Client.length_kexinit rfl).trans (by decide)), lift_some, pure_run]
    obtain ⟨own, is, chooses⟩ := (negotiation_sound calm).1 _ _ _ (run_of_outcome built)
    have sixteen : (zeros 16).length = 16 := rfl
    obtain ⟨small, valid⟩ := Kexinit.of_payload (rfl : Server.algLists.length = 10) sixteen
      (Server.length_kexinit sixteen) (Server.validates_kexinit sixteen fun _ => 0)
    exact ⟨own, is, chooses _ _ small valid⟩
  · have built : ((Server.buildKexinit calm).run ⟨Server.init, 0, [], []⟩).1 =
        .ok (kexinitPayload Server.algLists (zeros 16)) := by decide +kernel
    obtain ⟨own, is, chooses⟩ := (negotiation_sound calm).2 _ _ _ (run_of_outcome built)
    have sixteen : (zeros 16).length = 16 := rfl
    obtain ⟨small, valid⟩ := Kexinit.of_payload (rfl : Client.algLists.length = 10) sixteen
      (Client.length_kexinit sixteen) (Client.validates_kexinit sixteen fun _ => 0)
    exact ⟨own, is, chooses _ _ small valid⟩

end NoxSsh.Protocol
