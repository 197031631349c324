/-
# Server.Login — the one payload that logs a user in

The source reads a public key request through seven length-prefixed strings, each
with a bounds check whose sum can wrap, two of them nested.  If every check passes,
all lengths are the small ones the source compares with, nothing wrapped, and the
payload is the encoding of user, key and signature to the last byte
(`login_of_reads`).
-/
import NoxSsh.Server.Serve

namespace NoxSsh.Server

open Theory Proc Wire Transport

set_option autoImplicit false

/-- The request up to the signature: what is signed behind the session identifier. -/
def loginRequest (user key : List UInt8) : List UInt8 :=
  [50] ++ sshString user ++ sshString (ascii "ssh-connection") ++ sshString (ascii "publickey") ++ [1] ++
    sshString algEd25519 ++ sshString (ed25519Blob key)

/-- The whole payload. -/
def loginPayload (user key sig : List UInt8) : List UInt8 :=
  loginRequest user key ++ sshString (ed25519Blob sig)

theorem length_of_bytes {v : View} {m : Mem} {s : List UInt8} (shows : v.bytes m = s) : v.len = s.length := by
  rw [← shows, View.bytes, length_slice]

/-- Two nested strings that fill a blob are an `ssh-ed25519` blob. -/
theorem blob_of_reads {m : Mem} {blob name body : View} {off off' n : Nat} (small : n ≤ 64)
    (readName : payloadReadStringView (m.at blob.start) blob.len 0 = some (name, off))
    (readBody : payloadReadStringView (m.at blob.start) blob.len off = some (body, off'))
    (shows : name.bytes (m.at blob.start) = algEd25519) (length : body.len = n) (full : off' = blob.len) :
    blob.len = 19 + n ∧ blob.bytes m = ed25519Blob (body.bytes (m.at blob.start)) := by
  have nameLen : name.len = 11 := length_of_bytes shows
  obtain ⟨-, rfl, -, first⟩ := payloadReadStringView_some readName (by omega)
  obtain ⟨-, rfl, -, second⟩ := payloadReadStringView_some readBody (by omega)
  rw [shows] at first
  refine ⟨by omega, ?_⟩
  have whole : slice (m.at blob.start) 0 (4 + name.len + (4 + body.len)) =
      ed25519Blob (body.bytes (m.at blob.start)) := by
    rw [slice_add, first, ed25519Blob, ← second]
  rw [← whole, View.bytes, slice_at]
  congr 1
  omega

/-- What passes every check before the callback is asked. -/
theorem readPublickey_inv {hasCallback : Bool} {m : Mem} {plen off : Nat} {user : View}
    {req : PublickeyRequest} (short : plen ≤ 35000)
    (read : readPublickey hasCallback m plen user off = some req) :
    0 < user.len ∧ user.len < 65 ∧ 0 ∉ user.bytes m ∧ req.user = user.bytes m ∧ req.key.length = 32 ∧
      (req.signed = true → m off = 1) ∧ req.reqLen = off + 71 ∧ req.reqLen ≤ plen ∧
      slice m (off + 1) 70 = sshString algEd25519 ++ sshString (ed25519Blob req.key) := by
  unfold readPublickey at read
  obtain ⟨⟨some, few, plain, -, inside⟩, read⟩ := require_bind.1 read
  obtain ⟨-, read⟩ := require_bind.1 read
  obtain ⟨⟨alg, off₁⟩, readAlg, read⟩ := Option.bind_eq_some_iff.1 read
  obtain ⟨⟨keyBlob, off₂⟩, readBlob, read⟩ := Option.bind_eq_some_iff.1 read
  obtain ⟨showsAlg, read⟩ := require_bind.1 read
  obtain ⟨⟨blobAlg, blobOff⟩, readName, read⟩ := Option.bind_eq_some_iff.1 read
  obtain ⟨⟨key, blobOff'⟩, readKey, read⟩ := Option.bind_eq_some_iff.1 read
  obtain ⟨⟨full, showsName, keyLen⟩, read⟩ := require_bind.1 read
  obtain rfl := Option.some.inj read
  dsimp only at readAlg readBlob readName readKey full ⊢
  obtain ⟨blobLen, isBlob⟩ := blob_of_reads (n := 32) (by decide) readName readKey showsName keyLen full
  have algLen : alg.len = 11 := length_of_bytes showsAlg
  obtain ⟨-, rfl, -, first⟩ := payloadReadStringView_some readAlg (by omega)
  obtain ⟨-, rfl, last, second⟩ := payloadReadStringView_some readBlob (by omega)
  rw [showsAlg, algLen] at first
  rw [isBlob, blobLen, algLen] at second
  refine ⟨by omega, few, plain, rfl, ?_, by simp, by omega, last, ?_⟩
  · rw [View.bytes, length_slice, keyLen]
  · rw [show (70 : Nat) = (4 + 11) + (4 + (19 + 32)) from rfl, slice_add, first, second]

theorem readSignature_inv {m : Mem} {plen off : Nat} {sig : List UInt8} (short : off ≤ 35000)
    (read : readSignature m plen off = some sig) :
    sig.length = 64 ∧ off + 87 = plen ∧ slice m off 87 = sshString (ed25519Blob sig) := by
  unfold readSignature at read
  obtain ⟨⟨sigBlob, off₁⟩, readBlob, read⟩ := Option.bind_eq_some_iff.1 read
  obtain ⟨ends, read⟩ := require_bind.1 read
  obtain ⟨⟨sigAlg, sigOff⟩, readName, read⟩ := Option.bind_eq_some_iff.1 read
  obtain ⟨⟨body, sigOff'⟩, readSig, read⟩ := Option.bind_eq_some_iff.1 read
  obtain ⟨⟨full, showsName, sigLen⟩, read⟩ := require_bind.1 read
  obtain rfl := Option.some.inj read
  obtain ⟨blobLen, isBlob⟩ := blob_of_reads (n := 64) (by decide) readName readSig showsName sigLen full
  obtain ⟨-, rfl, -, whole⟩ := payloadReadStringView_some readBlob (by omega)
  rw [isBlob, blobLen] at whole
  refine ⟨by rw [View.bytes, length_slice, sigLen], by omega, ?_⟩
  rw [← whole]

/-- **The payload is the encoding.**  All reads of a signed request succeeded: it is
`loginPayload` of what was read, and the signed part is `loginRequest`. -/
theorem login_of_reads {p : List UInt8} {rest : Mem} {user service method : View} {off₁ off₂ off₃ : Nat}
    {hasCallback : Bool} {req : PublickeyRequest} {sig : List UInt8} (short : p.length ≤ 35000)
    (number : p.head? = some 50)
    (readUser : payloadReadStringView (memOf p rest) p.length 1 = some (user, off₁))
    (readService : payloadReadStringView (memOf p rest) p.length off₁ = some (service, off₂))
    (readMethod : payloadReadStringView (memOf p rest) p.length off₂ = some (method, off₃))
    (isService : service.bytes (memOf p rest) = ascii "ssh-connection")
    (isMethod : method.bytes (memOf p rest) = ascii "publickey")
    (read : readPublickey hasCallback (memOf p rest) p.length user off₃ = some req)
    (signed : req.signed = true) (readSig : readSignature (memOf p rest) p.length req.reqLen = some sig) :
    p = loginPayload req.user req.key sig ∧
      slice (memOf p rest) 0 req.reqLen = loginRequest req.user req.key := by
  obtain ⟨-, few, -, isUser, -, flag, reqLen, inside, tail⟩ := readPublickey_inv (by omega) read
  have flag := flag signed
  have serviceLen : service.len = 14 := length_of_bytes isService
  have methodLen : method.len = 9 := length_of_bytes isMethod
  obtain ⟨-, rfl, -, first⟩ := payloadReadStringView_some readUser (by omega)
  obtain ⟨-, rfl, -, second⟩ := payloadReadStringView_some readService (by omega)
  obtain ⟨-, rfl, -, third⟩ := payloadReadStringView_some readMethod (by omega)
  rw [isService] at second
  rw [isMethod] at third
  rw [← isUser] at first
  obtain ⟨-, ends, signature⟩ := readSignature_inv (by omega) readSig
  have head : slice (memOf p rest) 0 1 = [50] := by
    cases p with
    | nil => simp at number
    | cons c p =>
        simp only [List.head?_cons, Option.some.injEq] at number
        subst number
        rfl
  have byte : slice (memOf p rest) (1 + (4 + user.len) + (4 + service.len) + (4 + method.len)) 1 = [1] := by
    rw [slice_succ, flag, slice_zero]
  have request : slice (memOf p rest) 0 req.reqLen = loginRequest req.user req.key := by
    have sum : req.reqLen = 1 + (4 + user.len) + (4 + service.len) + (4 + method.len) + 1 + 70 := by omega
    rw [sum, slice_add, slice_add, slice_add, slice_add, slice_add]
    simp only [Nat.zero_add]
    rw [head, first, second, third, byte, tail, loginRequest]
    simp only [List.append_assoc]
  refine ⟨?_, request⟩
  have whole := slice_memOf_self p rest
  rw [← ends, slice_add, request, Nat.zero_add, signature] at whole
  exact whole.symm

end NoxSsh.Server
