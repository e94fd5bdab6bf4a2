import Mathlib.Algebra.Order.BigOperators.Group.List
import Mathlib.Algebra.Order.Ring.Nat
import Mathlib.Logic.Function.Basic
import Libwsc.Trace

/-! `WebSocketTLSContext`: the owner of one OpenSSL `SSL_CTX`. As for the receiver and zlib,
every OpenSSL call is recorded in a trace and every answer OpenSSL gives is a function of it.
Objects live at addresses; default and move construction, move assignment, destruction, `reset`,
`init` and `createSsl` act on them. What they keep is a conservation law: every live `SSL_CTX`
is held by exactly one object, no object holds a freed one, and no call is made on a context
that is not live. And no object is handed a context before `init` has set its protocol options
and verification mode, so `SSL_new` only ever sees configured contexts. -/
namespace Libwsc
namespace TLSContext

/-- One OpenSSL call of `WebSocketTLSContext.cpp`, with what it returned. -/
inductive SslCall where
  /-- `SSL_CTX_new(TLS_client_method())`: a context, or `NULL`. -/
  | ctxNew (ret : Option Nat)
  | ctxFree (ctx : Nat)
  /-- `SSL_CTX_set_options(ctx, SSL_OP_NO_SSLv2 | SSL_OP_NO_SSLv3)` -/
  | setOptions (ctx : Nat)
  | setCipherList (ctx : Nat) (ciphers : String) (ok : Bool)
  /-- `SSL_CTX_set_verify` with `SSL_VERIFY_PEER` (`true`) or `SSL_VERIFY_NONE`. -/
  | setVerify (ctx : Nat) (peer : Bool)
  | setDefaultVerifyPaths (ctx : Nat) (ok : Bool)
  | loadVerifyLocations (ctx : Nat) (caFile : String) (ok : Bool)
  | useCertificateFile (ctx : Nat) (file : String) (ok : Bool)
  | usePrivateKeyFile (ctx : Nat) (file : String) (ok : Bool)
  | checkPrivateKey (ctx : Nat) (ok : Bool)
  /-- `ERR_get_error` and `ERR_error_string_n` in `opensslLastErrorString`: the text, empty
  when the error queue was. -/
  | errGet (text : String)
  | sslNew (ctx : Nat) (ret : Option Nat)
  deriving DecidableEq, Repr

/-- The context a call works on, for the calls that neither create nor free one. -/
def SslCall.uses : SslCall → Option Nat
  | .setOptions c | .setCipherList c .. | .setVerify c _ | .setDefaultVerifyPaths c _
  | .loadVerifyLocations c .. | .useCertificateFile c .. | .usePrivateKeyFile c ..
  | .checkPrivateKey c _ | .sslNew c _ => some c
  | .ctxNew _ | .ctxFree _ | .errGet _ => none

/-- What a trace says of the contexts: which are live, and whether every call that uses or frees
a context found it live. -/
structure Contexts where
  live : List Nat := []
  wellUsed : Bool := true
  deriving DecidableEq, Repr

/-- `SSL_CTX_free` and every call on a context only on a live one. -/
def Contexts.allows (s : Contexts) : SslCall → Bool
  | .ctxFree p => s.live.contains p
  | c => match c.uses with
    | some p => s.live.contains p
    | none => true

/-- One more call: `SSL_CTX_new` makes its context live and `SSL_CTX_free` ends it. -/
def Contexts.after (s : Contexts) (c : SslCall) : Contexts :=
  let s' : Contexts := { s with wellUsed := s.wellUsed && s.allows c }
  match c with
  | .ctxNew (some p) => { s' with live := p :: s.live }
  | .ctxFree p => { s' with live := s.live.erase p }
  | _ => s'

/-- The contexts at the end of a trace begun with none. -/
def contexts (t : List SslCall) : Contexts := t.foldl Contexts.after {}

@[simp] theorem contexts_nil : contexts [] = {} := rfl

@[simp] theorem contexts_append_singleton (t : List SslCall) (c : SslCall) :
    contexts (t ++ [c]) = (contexts t).after c := by
  simp [contexts]

/-- OpenSSL, by the answers `WebSocketTLSContext` reads. `SSL_CTX_new` never returns a context
that is still live. -/
structure OpenSsl where
  ctxNew : List SslCall → Option Nat
  setCipherList : List SslCall → Nat → String → Bool
  setDefaultVerifyPaths : List SslCall → Nat → Bool
  loadVerifyLocations : List SslCall → Nat → String → Bool
  useCertificateFile : List SslCall → Nat → String → Bool
  usePrivateKeyFile : List SslCall → Nat → String → Bool
  checkPrivateKey : List SslCall → Nat → Bool
  lastError : List SslCall → String
  sslNew : List SslCall → Nat → Option Nat
  ctxNew_fresh : ∀ t p, ctxNew t = some p → p ∉ (contexts t).live

/-- The calls `init` may make on the context `p` it sets up, after `SSL_CTX_set_options`:
calls on `p` other than `SSL_new`, the error text, and `SSL_CTX_free(p)`. -/
def SslCall.OnSetup (p : Nat) : SslCall → Prop
  | .ctxFree q => q = p
  | .errGet _ => True
  | .ctxNew _ | .sslNew .. => False
  | c => c.uses = some p

/-- What `init` reads of `WebSocketTLSOptions`, whose header is not among the sources: the
answers of its query methods, `getDefaultCiphers()`, and the fields it reads. -/
structure WebSocketTLSOptions where
  usingDefaultCiphers : Bool
  defaultCiphers : String
  ciphers : String
  peerVerifyDisabled : Bool
  usingSystemCA : Bool
  usingCustomCA : Bool
  caFile : String
  certAndKey : Bool
  certFile : String
  keyFile : String
  deriving DecidableEq, Repr

/-- The objects by address: `none` where there is no object, and otherwise its `_ctx`, with
`none` for `nullptr`; and every OpenSSL call made so far. -/
structure World where
  objects : Nat → Option (Option Nat) := fun _ => none
  trace : List SslCall := []

namespace World

def call (w : World) (c : SslCall) : World := { w with trace := w.trace ++ [c] }

/-- Set the `_ctx` of the object at `o`. -/
def setCtx (w : World) (o : Nat) (ctx : Option Nat) : World :=
  { w with objects := Function.update w.objects o (some ctx) }

/-- The `_ctx` of the object at `o`; `none` also where there is no object. -/
def ctx (w : World) (o : Nat) : Option Nat := (w.objects o).bind id

@[simp] theorem call_trace (w : World) (c : SslCall) : (w.call c).trace = w.trace ++ [c] := rfl

@[simp] theorem call_objects (w : World) (c : SslCall) : (w.call c).objects = w.objects := rfl

@[simp] theorem call_ctx (w : World) (c : SslCall) (o : Nat) : (w.call c).ctx o = w.ctx o := rfl

@[simp] theorem setCtx_trace (w : World) (o : Nat) (c : Option Nat) :
    (w.setCtx o c).trace = w.trace := rfl

theorem ctx_setCtx (w : World) (o : Nat) (c : Option Nat) (o' : Nat) :
    (w.setCtx o c).ctx o' = if o' = o then c else w.ctx o' := by
  unfold ctx setCtx
  by_cases h : o' = o
  · subst h; simp
  · simp [h]

end World

/-! ### The methods -/

/-- `WebSocketTLSContext::reset` -/
def reset (w : World) (o : Nat) : World :=
  match w.ctx o with
  | some ctx => (w.call (.ctxFree ctx)).setCtx o none
  | none => w

/-- `opensslLastErrorString()` -/
def lastErrorString (ssl : OpenSsl) (w : World) : String × World :=
  let e := ssl.lastError w.trace
  (e, w.call (.errGet e))

/-- A stage of `init` after `SSL_CTX_new`: `some err` when it gave up. -/
abbrev Stage := World → Option String × World

/-- One stage, then the next unless the first gave up. -/
def Stage.andThen (s t : Stage) : Stage := fun w =>
  match s w with
  | (none, w) => t w
  | r => r

/-- One checked call on the new context: when it fails, `err` is `what` followed by OpenSSL's
text and the context is freed. -/
def checked (ssl : OpenSsl) (ctx : Nat) (answer : List SslCall → Bool) (c : Bool → SslCall)
    (what : String) : Stage := fun w =>
  let ok := answer w.trace
  let w := w.call (c ok)
  if ok then (none, w)
  else
    let (e, w) := lastErrorString ssl w
    (some (what ++ e), w.call (.ctxFree ctx))

/-- The cipher list: the default one or the user's, set unless it is empty. -/
def setCiphers (ssl : OpenSsl) (ctx : Nat) (opt : WebSocketTLSOptions) : Stage := fun w =>
  let cipherStr := if opt.usingDefaultCiphers then opt.defaultCiphers else opt.ciphers
  if cipherStr.isEmpty then (none, w)
  else checked ssl ctx (fun t => ssl.setCipherList t ctx cipherStr) (.setCipherList ctx cipherStr)
    "SSL_CTX_set_cipher_list failed: " w

/-- Verification, and the system or a custom CA store. -/
def setVerification (ssl : OpenSsl) (ctx : Nat) (opt : WebSocketTLSOptions) : Stage := fun w =>
  if opt.peerVerifyDisabled then (none, w.call (.setVerify ctx false))
  else
    let w := w.call (.setVerify ctx true)
    if opt.usingSystemCA then
      checked ssl ctx (fun t => ssl.setDefaultVerifyPaths t ctx) (.setDefaultVerifyPaths ctx)
        "SSL_CTX_set_default_verify_paths failed: " w
    else if opt.usingCustomCA then
      checked ssl ctx (fun t => ssl.loadVerifyLocations t ctx opt.caFile)
        (.loadVerifyLocations ctx opt.caFile)
        ("SSL_CTX_load_verify_locations failed for CA file \x27" ++ opt.caFile ++ "\x27: ") w
    else (none, w)

/-- The optional client certificate and key. -/
def setClientCert (ssl : OpenSsl) (ctx : Nat) (opt : WebSocketTLSOptions) : Stage := fun w =>
  if opt.certAndKey then
    ((checked ssl ctx (fun t => ssl.useCertificateFile t ctx opt.certFile)
        (.useCertificateFile ctx opt.certFile)
        ("SSL_CTX_use_certificate_file failed for \x27" ++ opt.certFile ++ "\x27: ")).andThen
      ((checked ssl ctx (fun t => ssl.usePrivateKeyFile t ctx opt.keyFile)
        (.usePrivateKeyFile ctx opt.keyFile)
        ("SSL_CTX_use_PrivateKey_file failed for \x27" ++ opt.keyFile ++ "\x27: ")).andThen
      (checked ssl ctx (fun t => ssl.checkPrivateKey t ctx) (.checkPrivateKey ctx)
        "SSL_CTX_check_private_key failed: "))) w
  else (none, w)

/-- `WebSocketTLSContext::init`: whether it succeeded, the text left in `err`, and the world
after. -/
def init (ssl : OpenSsl) (w : World) (o : Nat) (opt : WebSocketTLSOptions) :
    Bool × String × World :=
  let w := reset w o
  let ret := ssl.ctxNew w.trace
  let w := w.call (.ctxNew ret)
  match ret with
  | none =>
    let (e, w) := lastErrorString ssl w
    (false, "SSL_CTX_new failed: " ++ e, w)
  | some ctx =>
    match ((setCiphers ssl ctx opt).andThen ((setVerification ssl ctx opt).andThen
        (setClientCert ssl ctx opt))) (w.call (.setOptions ctx)) with
    | (none, w) => (true, "", w.setCtx o (some ctx))
    | (some err, w) => (false, err, w)

/-- `WebSocketTLSContext::createSsl`: the new `SSL`, or `none` with `err` set. -/
def createSsl (ssl : OpenSsl) (w : World) (o : Nat) : Option Nat × String × World :=
  match w.ctx o with
  | none => (none, "TLS context not initialized (SSL_CTX is null)", w)
  | some ctx =>
    let ret := ssl.sslNew w.trace ctx
    let w := w.call (.sslNew ctx ret)
    match ret with
    | some s => (some s, "", w)
    | none =>
      let (e, w) := lastErrorString ssl w
      (none, "SSL_new failed: " ++ e, w)

/-- The move constructor: the new object takes `other._ctx` and leaves `other` empty. -/
def moveConstruct (w : World) (o other : Nat) : World :=
  (w.setCtx o (w.ctx other)).setCtx other none

/-- Move assignment: unless it is a self-assignment, end the own context and take `other`'s. -/
def moveAssign (w : World) (o other : Nat) : World :=
  if o = other then w
  else
    let w := reset w o
    (w.setCtx o (w.ctx other)).setCtx other none

/-- The destructor, which runs `reset`. -/
def destroy (w : World) (o : Nat) : World :=
  { reset w o with objects := Function.update (reset w o).objects o none }

/-- What can be done to the objects. -/
inductive Op where
  /-- `WebSocketTLSContext()`, at an address where there is no object. -/
  | construct (o : Nat)
  /-- `WebSocketTLSContext(WebSocketTLSContext&& other)`, at an address where there is none. -/
  | moveConstruct (o other : Nat)
  | moveAssign (o other : Nat)
  | destroy (o : Nat)
  | reset (o : Nat)
  | init (o : Nat) (opt : WebSocketTLSOptions)
  | createSsl (o : Nat)

/-- What C++ allows: a constructor runs where there is no object, every other method on an
object. -/
def Op.Allowed (w : World) : Op → Prop
  | .construct o => w.objects o = none
  | .moveConstruct o other => w.objects o = none ∧ (w.objects other).isSome
  | .moveAssign o other => (w.objects o).isSome ∧ (w.objects other).isSome
  | .destroy o | .reset o | .init o _ | .createSsl o => (w.objects o).isSome

/-- The world after one method. -/
def Op.apply (ssl : OpenSsl) (w : World) : Op → World
  | .construct o => w.setCtx o none
  | .moveConstruct o other => TLSContext.moveConstruct w o other
  | .moveAssign o other => TLSContext.moveAssign w o other
  | .destroy o => TLSContext.destroy w o
  | .reset o => TLSContext.reset w o
  | .init o opt => (TLSContext.init ssl w o opt).2.2
  | .createSsl o => (TLSContext.createSsl ssl w o).2.2

/-- The worlds reached from none by allowed methods. -/
inductive Reachable (ssl : OpenSsl) : World → Prop where
  | init : Reachable ssl {}
  | op {w : World} (h : Reachable ssl w) (op : Op) (hOk : op.Allowed w) :
      Reachable ssl (op.apply ssl w)

/-! ### The contexts a trace leaves live -/

@[simp] theorem Contexts.wellUsed_after (s : Contexts) (c : SslCall) :
    (s.after c).wellUsed = (s.wellUsed && s.allows c) := by
  unfold Contexts.after; split <;> rfl

theorem Contexts.live_after_of_uses (s : Contexts) {c : SslCall} {p : Nat} (h : c.uses = some p) :
    (s.after c).live = s.live ∧ s.allows c = s.live.contains p := by
  cases c <;> simp_all [SslCall.uses, Contexts.after, Contexts.allows]

/-- `wellUsed` says what it should: every call was allowed where it was made. -/
theorem contexts_wellUsed_iff (t : List SslCall) :
    (contexts t).wellUsed = true ↔
      ∀ pre c post, t = pre ++ c :: post → (contexts pre).allows c = true :=
  foldl_allowed_iff Contexts.after Contexts.wellUsed Contexts.allows Contexts.wellUsed_after {} rfl t

theorem World.contexts_call (w : World) (c : SslCall) :
    contexts (w.call c).trace = (contexts w.trace).after c :=
  contexts_append_singleton w.trace c

/-! ### The conservation law -/

/-- Every live context is held by exactly one object or is `setup`, the one `init` holds in a
local variable; no object holds a dead one; every call so far found its context live. -/
structure Owned (w : World) (setup : Option Nat) : Prop where
  wellUsed : (contexts w.trace).wellUsed = true
  nodup : (contexts w.trace).live.Nodup
  held_live : ∀ o p, w.ctx o = some p → p ∈ (contexts w.trace).live
  unique : ∀ o o' p, w.ctx o = some p → w.ctx o' = some p → o = o'
  live_held : ∀ p ∈ (contexts w.trace).live, (∃ o, w.ctx o = some p) ∨ setup = some p
  setup_live : ∀ p, setup = some p → p ∈ (contexts w.trace).live ∧ ∀ o, w.ctx o ≠ some p

theorem owned_empty : Owned {} none :=
  ⟨rfl, List.nodup_nil, fun _ _ h => (by cases h), fun _ _ _ h => (by cases h),
    fun _ h => (by cases h), fun _ h => (by cases h)⟩

variable {w : World} {setup : Option Nat}

/-- A world with the same objects and the same live contexts keeps the law. -/
theorem Owned.congr {w' : World} (h : Owned w setup) (hC : w'.ctx = w.ctx)
    (hL : (contexts w'.trace).live = (contexts w.trace).live)
    (hW : (contexts w'.trace).wellUsed = true) : Owned w' setup where
  wellUsed := hW
  nodup := hL ▸ h.nodup
  held_live o p hp := hL ▸ h.held_live o p (hC ▸ hp)
  unique o o' p hp hp' := h.unique o o' p (hC ▸ hp) (hC ▸ hp')
  live_held p hp := hC ▸ h.live_held p (hL ▸ hp)
  setup_live p hp := hC ▸ hL ▸ h.setup_live p hp

/-- A call on a live context. -/
theorem Owned.use (h : Owned w setup) {c : SslCall} {p : Nat} (hc : c.uses = some p)
    (hp : p ∈ (contexts w.trace).live) : Owned (w.call c) setup := by
  obtain ⟨hL, hA⟩ := (contexts w.trace).live_after_of_uses hc
  exact h.congr rfl (by simpa using hL) (by simp [hA, h.wellUsed, hp])

theorem Owned.errGet (h : Owned w setup) (e : String) : Owned (w.call (.errGet e)) setup :=
  h.congr rfl (by rw [World.contexts_call]; rfl)
    (by simpa [World.contexts_call, Contexts.allows, SslCall.uses] using h.wellUsed)

/-- `SSL_CTX_new` returning `NULL`. -/
theorem Owned.ctxNewNone (h : Owned w setup) : Owned (w.call (.ctxNew none)) setup :=
  h.congr rfl (by rw [World.contexts_call]; rfl)
    (by simpa [World.contexts_call, Contexts.allows, SslCall.uses] using h.wellUsed)

/-- `SSL_CTX_new` returning a context that is not live: `init` now holds it. -/
theorem Owned.alloc (h : Owned w none) {p : Nat} (hp : p ∉ (contexts w.trace).live) :
    Owned (w.call (.ctxNew (some p))) (some p) := by
  have hL : (contexts (w.call (.ctxNew (some p))).trace).live = p :: (contexts w.trace).live := by
    rw [World.contexts_call]; rfl
  refine ⟨by simpa [World.contexts_call, Contexts.allows, SslCall.uses] using h.wellUsed, ?_, ?_,
    h.unique, ?_, ?_⟩
  · rw [hL]; exact List.nodup_cons.mpr ⟨hp, h.nodup⟩
  · intro o q hq; rw [hL]; exact List.mem_cons_of_mem p (h.held_live o q hq)
  · intro q hq
    rw [hL] at hq
    rcases List.mem_cons.mp hq with rfl | hq
    · exact .inr rfl
    · exact (h.live_held q hq).imp_right nofun
  · intro q hq
    cases hq
    exact ⟨hL ▸ List.mem_cons_self p _, fun o ho => hp (h.held_live o p ho)⟩

/-- `SSL_CTX_free` on a live context no object holds. -/
theorem Owned.free {setup' : Option Nat} (h : Owned w setup) {p : Nat}
    (hp : p ∈ (contexts w.trace).live) (hFree : ∀ o, w.ctx o ≠ some p)
    (hSetup : ∀ q, setup' = some q → setup = some q ∧ q ≠ p)
    (hGone : ∀ q, setup = some q → q ≠ p → setup' = some q) :
    Owned (w.call (.ctxFree p)) setup' := by
  have hL : (contexts (w.call (.ctxFree p)).trace).live = (contexts w.trace).live.erase p := by
    rw [World.contexts_call]; rfl
  have hMem : ∀ q, q ∈ (contexts (w.call (.ctxFree p)).trace).live ↔
      q ≠ p ∧ q ∈ (contexts w.trace).live := fun q => hL ▸ h.nodup.mem_erase_iff
  refine ⟨by simp [World.contexts_call, Contexts.allows, h.wellUsed, hp], hL ▸ h.nodup.erase p, ?_,
    h.unique, ?_, ?_⟩
  · intro o q hq
    exact (hMem q).mpr ⟨fun hqp => hFree o (hqp ▸ hq), h.held_live o q hq⟩
  · intro q hq
    obtain ⟨hqp, hq⟩ := (hMem q).mp hq
    exact (h.live_held q hq).imp_right fun hs => hGone q hs hqp
  · intro q hq
    obtain ⟨hs, hqp⟩ := hSetup q hq
    exact ⟨(hMem q).mpr ⟨hqp, (h.setup_live q hs).1⟩, (h.setup_live q hs).2⟩

/-- The context `init` holds, handed to the object at `o`, which holds none. -/
theorem Owned.adopt {p : Nat} (h : Owned w (some p)) {o : Nat} (hEmpty : w.ctx o = none) :
    Owned (w.setCtx o (some p)) none := by
  have hNot := (h.setup_live p rfl).2
  refine ⟨h.wellUsed, h.nodup, ?_, ?_, ?_, nofun⟩
  · intro o' q hq
    rw [World.ctx_setCtx] at hq
    split_ifs at hq
    · cases hq; exact (h.setup_live p rfl).1
    · exact h.held_live o' q hq
  · intro o₁ o₂ q h₁ h₂
    rw [World.ctx_setCtx] at h₁ h₂
    split_ifs at h₁ h₂ with e₁ e₂ e₂
    · exact e₁.trans e₂.symm
    · cases h₁; exact absurd h₂ (hNot o₂)
    · cases h₂; exact absurd h₁ (hNot o₁)
    · exact h.unique o₁ o₂ q h₁ h₂
  · intro q hq
    left
    rcases h.live_held q hq with ⟨o', ho'⟩ | hs
    · refine ⟨o', ?_⟩
      rw [World.ctx_setCtx, if_neg (fun e => by rw [e, hEmpty] at ho'; cases ho')]
      exact ho'
    · cases hs
      exact ⟨o, by rw [World.ctx_setCtx, if_pos rfl]⟩

/-- `SSL_CTX_free` on the context `init` holds. -/
theorem Owned.freeSetup {p : Nat} (h : Owned w (some p)) : Owned (w.call (.ctxFree p)) none :=
  h.free (h.setup_live p rfl).1 (h.setup_live p rfl).2 nofun
    fun _ hq hqp => absurd (Option.some.inj hq).symm hqp

/-- The object at `o` lets go of its context, which a local now holds. -/
theorem Owned.letGo (h : Owned w none) {o p : Nat} (hHeld : w.ctx o = some p) :
    Owned (w.setCtx o none) (some p) := by
  have hOther : ∀ o', o' ≠ o → w.ctx o' ≠ some p := fun o' hne hp => hne (h.unique o' o p hp hHeld)
  refine ⟨h.wellUsed, h.nodup, ?_, ?_, ?_, ?_⟩
  · intro o' q hq
    rw [World.ctx_setCtx] at hq
    split_ifs at hq
    exact h.held_live o' q hq
  · intro o₁ o₂ q h₁ h₂
    rw [World.ctx_setCtx] at h₁ h₂
    split_ifs at h₁ h₂
    exact h.unique o₁ o₂ q h₁ h₂
  · intro q hq
    rcases h.live_held q hq with ⟨o', ho'⟩ | hs
    · by_cases e : o' = o
      · subst e
        rw [hHeld] at ho'
        exact .inr ho'
      · exact .inl ⟨o', by rw [World.ctx_setCtx, if_neg e]; exact ho'⟩
    · cases hs
  · intro q hq
    cases hq
    refine ⟨h.held_live o p hHeld, fun o' ho' => ?_⟩
    rw [World.ctx_setCtx] at ho'
    split_ifs at ho' with e
    exact hOther o' e ho'

theorem World.ctx_setCtx_of_eq {w : World} {o : Nat} {c : Option Nat} (h : w.ctx o = c) :
    (w.setCtx o c).ctx = w.ctx := by
  funext o'
  rw [World.ctx_setCtx]
  split_ifs with e
  · rw [e, h]
  · rfl

theorem World.setCtx_comm (w : World) {o o' : Nat} (hne : o ≠ o') (c c' : Option Nat) :
    (w.setCtx o c).setCtx o' c' = (w.setCtx o' c').setCtx o c := by
  simp only [World.setCtx, World.mk.injEq, and_true]
  exact Function.update_comm hne _ _ _

theorem reset_owned (h : Owned w none) (o : Nat) : Owned (reset w o) none := by
  unfold reset
  rcases hHeld : w.ctx o with _ | p
  · exact h
  · exact ((h.letGo hHeld).freeSetup : Owned ((w.setCtx o none).call (.ctxFree p)) none)

theorem reset_ctx_self (w : World) (o : Nat) : (reset w o).ctx o = none := by
  unfold reset
  rcases hHeld : w.ctx o with _ | p
  · exact hHeld
  · rw [World.ctx_setCtx, if_pos rfl]

theorem reset_ctx_of_ne (w : World) {o o' : Nat} (h : o' ≠ o) : (reset w o).ctx o' = w.ctx o' := by
  unfold reset
  rcases w.ctx o with _ | p
  · rfl
  · rw [World.ctx_setCtx, if_neg h]; rfl

/-- The context of `other`, if any, moves to `o`, which holds none. -/
theorem Owned.move (h : Owned w none) {o other : Nat} (hEmpty : w.ctx o = none) (hne : o ≠ other) :
    Owned ((w.setCtx o (w.ctx other)).setCtx other none) none := by
  rcases hOther : w.ctx other with _ | p
  · have hC : ((w.setCtx o none).setCtx other none).ctx = w.ctx := by
      rw [World.ctx_setCtx_of_eq (by rw [World.ctx_setCtx, if_neg (Ne.symm hne)]; exact hOther),
        World.ctx_setCtx_of_eq hEmpty]
    exact h.congr hC rfl h.wellUsed
  · rw [World.setCtx_comm w hne]
    refine (h.letGo hOther).adopt ?_
    rw [World.ctx_setCtx, if_neg hne]
    exact hEmpty

/-! ### `init` -/

theorem append_ne_empty {s : String} (t : String) (h : s ≠ "") : s ++ t ≠ "" := fun e =>
  h (String.ext (List.append_eq_nil.mp (congrArg String.data e : s.data ++ t.data = [])).1)

/-- What one run of a stage of `init` on the context `p` does: it changes no object, gives up
only with a text, makes only calls `init` may make on `p` and frees `p` only when it gives up,
and keeps the law with `p` held by `init` while it goes on and freed when it gives up. -/
structure Stage.Sound (p : Nat) (w : World) (r : Option String × World) : Prop where
  ctx : r.2.ctx = w.ctx
  err : ∀ e, r.1 = some e → e ≠ ""
  calls : ∃ cs, r.2.trace = w.trace ++ cs ∧ (∀ c ∈ cs, c.OnSetup p) ∧
    (r.1 = none → .ctxFree p ∉ cs)
  owned : Owned w (some p) → Owned r.2 (if r.1 = none then some p else none)

def Stage.Keeps (p : Nat) (st : Stage) : Prop := ∀ w, Stage.Sound p w (st w)

theorem Stage.keeps_pass (p : Nat) : Stage.Keeps p fun w => (none, w) :=
  fun _ => ⟨rfl, nofun, ⟨[], (List.append_nil _).symm, nofun, fun _ => List.not_mem_nil _⟩, id⟩

theorem Stage.Keeps.andThen {p : Nat} {s t : Stage} (hs : s.Keeps p) (ht : t.Keeps p) :
    (s.andThen t).Keeps p := by
  intro w
  obtain ⟨hC, hE, ⟨cs, hT, hcs, hF⟩, hO⟩ := hs w
  unfold Stage.andThen
  rcases hsw : s w with ⟨_ | e, w1⟩ <;> rw [hsw] at hC hE hT hF hO
  · obtain ⟨hC', hE', ⟨cs', hT', hcs', hF'⟩, hO'⟩ := ht w1
    refine ⟨hC'.trans hC, hE', ⟨cs ++ cs', by rw [hT', hT, List.append_assoc],
      fun c hc => (List.mem_append.mp hc).elim (hcs c) (hcs' c), fun hn hm => ?_⟩,
      fun hw => hO' (by simpa using hO hw)⟩
    exact (List.mem_append.mp hm).elim (hF rfl) (hF' hn)
  · exact ⟨hC, hE, ⟨cs, hT, hcs, hF⟩, hO⟩

theorem checked_keeps (ssl : OpenSsl) (p : Nat) (answer : List SslCall → Bool)
    {c : Bool → SslCall} (hc : ∀ b, (c b).uses = some p) (hs : ∀ b, (c b).OnSetup p)
    {what : String} (hWhat : what ≠ "") : (checked ssl p answer c what).Keeps p := by
  intro w
  unfold checked lastErrorString
  dsimp only
  cases hA : answer w.trace
  · refine ⟨rfl, fun e he => ?_,
      ⟨[c false, .errGet (ssl.lastError (w.call (c false)).trace), .ctxFree p], by simp, ?_, nofun⟩,
      fun hw => ?_⟩
    · cases he; exact append_ne_empty _ hWhat
    · simp only [List.mem_cons, List.not_mem_nil, or_false]
      rintro _ (rfl | rfl | rfl)
      exacts [hs false, trivial, rfl]
    · simpa using ((hw.use (hc false) (hw.setup_live p rfl).1).errGet _).freeSetup
  · refine ⟨rfl, nofun, ⟨[c true], rfl, by simpa using hs true, fun _ hm => ?_⟩,
      fun hw => by simpa using hw.use (hc true) (hw.setup_live p rfl).1⟩
    have := hc true
    rw [← List.mem_singleton.mp hm] at this
    cases this

theorem Stage.Keeps.ite {p : Nat} {s t : Stage} (c : Prop) [Decidable c] (hs : s.Keeps p)
    (ht : t.Keeps p) : Stage.Keeps p fun w => if c then s w else t w := by
  intro w
  dsimp only
  by_cases hc : c
  · rw [if_pos hc]; exact hs w
  · rw [if_neg hc]; exact ht w

/-- A stage after a call on the context `init` holds. -/
theorem Stage.Keeps.afterUse {p : Nat} {s : Stage} {c : SslCall} (hc : c.uses = some p)
    (hOn : c.OnSetup p) (hs : s.Keeps p) : Stage.Keeps p fun w => s (w.call c) := fun w =>
  have ⟨hC, hE, ⟨cs, hT, hcs, hF⟩, hO⟩ := hs (w.call c)
  ⟨hC, hE, ⟨c :: cs, by rw [hT]; simp,
      fun d hd => (List.mem_cons.mp hd).elim (· ▸ hOn) (hcs d),
      fun hn hm => (List.mem_cons.mp hm).elim (fun e => by rw [← e] at hc; cases hc) (hF hn)⟩,
    fun hw => hO (hw.use hc (hw.setup_live p rfl).1)⟩

theorem setCiphers_keeps (ssl : OpenSsl) (p : Nat) (opt : WebSocketTLSOptions) :
    (setCiphers ssl p opt).Keeps p :=
  Stage.Keeps.ite _ (Stage.keeps_pass p)
    (checked_keeps ssl p _ (by intro; rfl) (by intro; rfl) (by decide))

theorem setVerification_keeps (ssl : OpenSsl) (p : Nat) (opt : WebSocketTLSOptions) :
    (setVerification ssl p opt).Keeps p :=
  Stage.Keeps.ite _ (Stage.Keeps.afterUse (by rfl) (by rfl) (Stage.keeps_pass p))
    (Stage.Keeps.afterUse (by rfl) (by rfl) (Stage.Keeps.ite _
      (checked_keeps ssl p _ (by intro; rfl) (by intro; rfl) (by decide))
      (Stage.Keeps.ite _ (checked_keeps ssl p _ (by intro; rfl) (by intro; rfl)
        (append_ne_empty _ (append_ne_empty _ (by decide)))) (Stage.keeps_pass p))))

theorem setClientCert_keeps (ssl : OpenSsl) (p : Nat) (opt : WebSocketTLSOptions) :
    (setClientCert ssl p opt).Keeps p :=
  Stage.Keeps.ite _ ((checked_keeps ssl p _ (by intro; rfl) (by intro; rfl)
        (append_ne_empty _ (append_ne_empty _ (by decide)))).andThen
      ((checked_keeps ssl p _ (by intro; rfl) (by intro; rfl)
        (append_ne_empty _ (append_ne_empty _ (by decide)))).andThen
        (checked_keeps ssl p _ (by intro; rfl) (by intro; rfl) (by decide))))
    (Stage.keeps_pass p)

/-- All the stages of `init` after `SSL_CTX_set_options`. -/
theorem stages_keeps (ssl : OpenSsl) (p : Nat) (opt : WebSocketTLSOptions) :
    ((setCiphers ssl p opt).andThen ((setVerification ssl p opt).andThen
      (setClientCert ssl p opt))).Keeps p :=
  (setCiphers_keeps ssl p opt).andThen
    ((setVerification_keeps ssl p opt).andThen (setClientCert_keeps ssl p opt))

/-- `init`, whatever OpenSSL answers, keeps the law: the old context is freed by `reset`, and the
new one is freed on every path that gives up and held by the object on the one that does not. -/
theorem init_owned (h : Owned w none) (ssl : OpenSsl) (o : Nat) (opt : WebSocketTLSOptions) :
    Owned (init ssl w o opt).2.2 none := by
  have h1 := reset_owned h o
  have hE := reset_ctx_self w o
  unfold init
  generalize reset w o = w1 at h1 hE
  dsimp only
  rcases hr : ssl.ctxNew w1.trace with _ | p
  · exact h1.ctxNewNone.errGet _
  dsimp only
  have h2 := h1.alloc (ssl.ctxNew_fresh _ _ hr)
  have h3 := h2.use (c := .setOptions p) rfl (h2.setup_live p rfl).1
  obtain ⟨hC, -, -, hO⟩ := stages_keeps ssl p opt ((w1.call (.ctxNew (some p))).call (.setOptions p))
  rcases hs : ((setCiphers ssl p opt).andThen ((setVerification ssl p opt).andThen
      (setClientCert ssl p opt))) ((w1.call (.ctxNew (some p))).call (.setOptions p)) with
    ⟨_ | err, w4⟩ <;> rw [hs] at hC hO
  · exact (hO h3).adopt (by rw [hC]; exact hE)
  · exact hO h3

/-- Whatever the options and whatever OpenSSL answers, `init` reports success exactly when it
leaves `err` empty and exactly when the object ends up holding a context: a failure at any
stage leaves it holding none, not its old context, which `reset` freed. No other object is
touched. -/
theorem init_result (ssl : OpenSsl) (w : World) (o : Nat) (opt : WebSocketTLSOptions) :
    ((init ssl w o opt).1 = true ↔ (init ssl w o opt).2.1 = "") ∧
      ((init ssl w o opt).1 = true ↔ ((init ssl w o opt).2.2.ctx o).isSome) ∧
      ∀ o', o' ≠ o → (init ssl w o opt).2.2.ctx o' = w.ctx o' := by
  have hE := reset_ctx_self w o
  have hR : ∀ o', o' ≠ o → (reset w o).ctx o' = w.ctx o' := fun _ => reset_ctx_of_ne w
  unfold init
  generalize reset w o = w1 at hE hR
  dsimp only
  rcases ssl.ctxNew w1.trace with _ | p
  · exact ⟨iff_of_false nofun (append_ne_empty _ (by decide)),
      iff_of_false nofun (by simp [lastErrorString, hE]), hR⟩
  dsimp only
  obtain ⟨hC, hErr, -, -⟩ := stages_keeps ssl p opt ((w1.call (.ctxNew (some p))).call (.setOptions p))
  rcases hs : ((setCiphers ssl p opt).andThen ((setVerification ssl p opt).andThen
      (setClientCert ssl p opt))) ((w1.call (.ctxNew (some p))).call (.setOptions p)) with
    ⟨_ | err, w4⟩ <;> rw [hs] at hC hErr
  · refine ⟨iff_of_true rfl rfl, iff_of_true rfl (by rw [World.ctx_setCtx, if_pos rfl]; rfl),
      fun o' h => ?_⟩
    rw [World.ctx_setCtx, if_neg h, hC]
    exact hR o' h
  · exact ⟨iff_of_false nofun (hErr err rfl), iff_of_false nofun (by rw [hC]; simp [hE]),
      fun o' h => by rw [hC]; exact hR o' h⟩

theorem createSsl_owned (h : Owned w none) (ssl : OpenSsl) (o : Nat) :
    Owned (createSsl ssl w o).2.2 none := by
  unfold createSsl
  rcases hHeld : w.ctx o with _ | p
  · exact h
  have h1 := h.use (c := .sslNew p (ssl.sslNew w.trace p)) rfl (h.held_live o p hHeld)
  dsimp only
  rcases hn : ssl.sslNew w.trace p with _ | _ <;> rw [hn] at h1
  · exact h1.errGet _
  · exact h1

/-! ### Every run -/

/-- After the destructor, the object is gone and every other object holds what it did. -/
theorem destroy_ctx (w : World) (o : Nat) : (destroy w o).ctx = (reset w o).ctx := by
  funext o'
  by_cases e : o' = o
  · subst e
    simp only [destroy, World.ctx, Function.update_same, Option.none_bind]
    exact (reset_ctx_self w o').symm
  · simp only [destroy, World.ctx, Function.update_noteq e]

/-- Every allowed method keeps the law. -/
theorem Op.owned (ssl : OpenSsl) (h : Owned w none) : ∀ op : Op, op.Allowed w →
    Owned (op.apply ssl w) none
  | .construct o, (hFree : w.objects o = none) =>
    h.congr (World.ctx_setCtx_of_eq (by simp [World.ctx, hFree])) rfl h.wellUsed
  | .moveConstruct o other, ⟨hFree, hOther⟩ =>
    h.move (by simp [World.ctx, hFree]) fun e => by rw [← e, hFree] at hOther; cases hOther
  | .moveAssign o other, _ => by
    show Owned (TLSContext.moveAssign w o other) none
    unfold TLSContext.moveAssign
    split_ifs with e
    · exact h
    · exact (reset_owned h o).move (reset_ctx_self w o) e
  | .destroy o, _ => (reset_owned h o).congr (destroy_ctx w o) rfl (reset_owned h o).wellUsed
  | .reset o, _ => reset_owned h o
  | .init o opt, _ => init_owned h ssl o opt
  | .createSsl o, _ => createSsl_owned h ssl o

/-- Over every sequence of allowed methods, whatever OpenSSL answers: every live `SSL_CTX` is
held by exactly one object; no object holds one that was freed; every call that uses or frees a
context found it live, so nothing is used after it is freed or freed twice; and once no object
is left, every context made has been freed. -/
theorem reachable_owned {ssl : OpenSsl} {w : World} (h : Reachable ssl w) :
    (∀ p ∈ (contexts w.trace).live, ∃ o, w.ctx o = some p ∧ ∀ o', w.ctx o' = some p → o' = o) ∧
      (∀ o p, w.ctx o = some p → p ∈ (contexts w.trace).live) ∧
      (∀ pre c post, w.trace = pre ++ c :: post → (contexts pre).allows c = true) ∧
      ((∀ o, w.objects o = none) → (contexts w.trace).live = []) := by
  have hO : Owned w none := by
    induction h with
    | init => exact owned_empty
    | op _ op hOk ih => exact Op.owned ssl ih op hOk
  have hHeld : ∀ p ∈ (contexts w.trace).live, ∃ o, w.ctx o = some p := fun p hp =>
    (hO.live_held p hp).resolve_right nofun
  refine ⟨fun p hp => ?_, hO.held_live, (contexts_wellUsed_iff _).mp hO.wellUsed, fun hNone => ?_⟩
  · obtain ⟨o, ho⟩ := hHeld p hp
    exact ⟨o, ho, fun o' ho' => hO.unique o' o p ho' ho⟩
  · refine List.eq_nil_iff_forall_not_mem.mpr fun p hp => ?_
    obtain ⟨o, ho⟩ := hHeld p hp
    simp [World.ctx, hNone o] at ho

/-- An OpenSSL that accepts everything; `SSL_CTX_new` returns a context above every live one. -/
def acceptingSsl : OpenSsl where
  ctxNew t := some ((contexts t).live.sum + 1)
  setCipherList _ _ _ := true
  setDefaultVerifyPaths _ _ := true
  loadVerifyLocations _ _ _ := true
  useCertificateFile _ _ _ := true
  usePrivateKeyFile _ _ _ := true
  checkPrivateKey _ _ := true
  lastError _ := ""
  sslNew _ _ := some 0
  ctxNew_fresh t p h hp := by
    cases h
    exact Nat.not_succ_le_self _ (List.le_sum_of_mem hp)

/-- An object at address 0, initialised to verify peers against the system CA store and then
moved to address 1. -/
theorem reachable_owned_moved :
    let opt : WebSocketTLSOptions :=
      ⟨false, "", "", false, true, false, "", false, "", ""⟩
    let w := Op.apply acceptingSsl
      (Op.apply acceptingSsl (Op.apply acceptingSsl {} (.construct 0)) (.init 0 opt))
      (.moveConstruct 1 0)
    Reachable acceptingSsl w ∧
      (∀ p ∈ (contexts w.trace).live, ∃ o, w.ctx o = some p ∧ ∀ o', w.ctx o' = some p → o' = o) ∧
      (∀ o p, w.ctx o = some p → p ∈ (contexts w.trace).live) ∧
      (∀ pre c post, w.trace = pre ++ c :: post → (contexts pre).allows c = true) ∧
      ((∀ o, w.objects o = none) → (contexts w.trace).live = []) := by
  intro opt w
  have h : Reachable acceptingSsl w :=
    .op (.op (.op .init (.construct 0) rfl) (.init 0 opt) rfl) (.moveConstruct 1 0) ⟨rfl, rfl⟩
  exact ⟨h, reachable_owned h⟩

/-! ### What a context is given before it is used -/

theorem Stage.Keeps.trace_first {p : Nat} {s : Stage} (hs : s.Keeps p) (w : World) (c : SslCall) :
    ∃ cs, (s (w.call c)).2.trace = w.trace ++ c :: cs := by
  obtain ⟨cs, hT, -⟩ := (hs (w.call c)).calls
  exact ⟨cs, by rw [hT]; simp⟩

/-- `setVerification` always begins with `SSL_CTX_set_verify`. -/
theorem setVerification_setVerify (ssl : OpenSsl) (p : Nat) (opt : WebSocketTLSOptions)
    (w : World) :
    ∃ peer cs, (setVerification ssl p opt w).2.trace = w.trace ++ .setVerify p peer :: cs := by
  unfold setVerification
  dsimp only
  split_ifs
  · exact ⟨false, [], rfl⟩
  · exact ⟨true, (checked_keeps ssl p _ (by intro; rfl) (by intro; rfl) (by decide)).trace_first _ _⟩
  · exact ⟨true, (checked_keeps ssl p _ (by intro; rfl) (by intro; rfl)
      (append_ne_empty _ (append_ne_empty _ (by decide)))).trace_first _ _⟩
  · exact ⟨true, [], rfl⟩

/-- When the stages of `init` go on, they have called `SSL_CTX_set_verify` on the context. -/
theorem stages_setVerify (ssl : OpenSsl) (p : Nat) (opt : WebSocketTLSOptions) (w : World)
    (h : (((setCiphers ssl p opt).andThen ((setVerification ssl p opt).andThen
      (setClientCert ssl p opt))) w).1 = none) :
    ∃ cs peer, (((setCiphers ssl p opt).andThen ((setVerification ssl p opt).andThen
      (setClientCert ssl p opt))) w).2.trace = w.trace ++ cs ∧ .setVerify p peer ∈ cs := by
  obtain ⟨cs1, hT1, -⟩ := (setCiphers_keeps ssl p opt w).calls
  unfold Stage.andThen at h ⊢
  rcases h1 : setCiphers ssl p opt w with ⟨_ | e, w1⟩ <;> rw [h1] at h hT1 <;>
    dsimp only at h hT1 ⊢
  · obtain ⟨peer, cs2, hT2⟩ := setVerification_setVerify ssl p opt w1
    rcases h2 : setVerification ssl p opt w1 with ⟨_ | e, w2⟩ <;> rw [h2] at h hT2 <;>
      dsimp only at h hT2 ⊢
    · obtain ⟨cs3, hT3, -⟩ := (setClientCert_keeps ssl p opt w2).calls
      exact ⟨cs1 ++ .setVerify p peer :: cs2 ++ cs3, peer, by rw [hT3, hT2, hT1]; simp, by simp⟩
    · cases h
  · cases h

/-- Since an `SSL_CTX_new` that returned `p`, the context has been given the protocol
options and a verification mode, and has not been freed. -/
def Configured (t : List SslCall) (p : Nat) : Prop :=
  ∃ a b, t = a ++ .ctxNew (some p) :: b ∧ .ctxFree p ∉ b ∧ .setOptions p ∈ b ∧
    ∃ peer, .setVerify p peer ∈ b

theorem Configured.append {t : List SslCall} {p : Nat} (h : Configured t p) {s : List SslCall}
    (hs : .ctxFree p ∉ s) : Configured (t ++ s) p := by
  obtain ⟨a, b, rfl, hF, hO, peer, hV⟩ := h
  exact ⟨a, b ++ s, by simp, by simp [hF, hs], List.mem_append_left _ hO, peer,
    List.mem_append_left _ hV⟩

/-- Where an element of `t ++ cs` sits: in `t`, or in `cs`. -/
theorem append_eq_append_cons {α : Type} {t cs pre post : List α} {x : α}
    (h : t ++ cs = pre ++ x :: post) :
    (∃ post', t = pre ++ x :: post') ∨ ∃ a b, cs = a ++ x :: b ∧ pre = t ++ a := by
  rcases List.append_eq_append_iff.mp h with ⟨a, hPre, hCs⟩ | ⟨c, hT, hPost⟩
  · exact .inr ⟨a, post, hCs, hPre⟩
  · rcases c with _ | ⟨y, c⟩
    · exact .inr ⟨[], post, by simpa using hPost.symm, by simpa using hT.symm⟩
    · obtain ⟨rfl, rfl⟩ := List.cons.inj hPost
      exact .inl ⟨c, hT⟩

/-- Every context an object holds is configured, and every `SSL_new` so far was made on a
context configured at the time. -/
structure SetUp (w : World) : Prop where
  held : ∀ o p, w.ctx o = some p → Configured w.trace p
  sslNew : ∀ pre p r post, w.trace = pre ++ .sslNew p r :: post → Configured pre p

theorem setUp_empty : SetUp {} :=
  ⟨fun _ _ h => (by cases h), fun pre _ _ _ h => (by cases pre <;> cases h)⟩

/-- Calls that make no `SSL_new` and free no context an object holds afterwards, where every
context held afterwards was held before. -/
theorem SetUp.extend (h : SetUp w) {w' : World} (cs : List SslCall)
    (hT : w'.trace = w.trace ++ cs)
    (hC : ∀ o p, w'.ctx o = some p → (∃ o', w.ctx o' = some p) ∧ .ctxFree p ∉ cs)
    (hNew : ∀ p r, .sslNew p r ∉ cs) : SetUp w' := by
  refine ⟨fun o p hp => ?_, fun pre p r post hEq => ?_⟩
  · obtain ⟨⟨o', ho'⟩, hF⟩ := hC o p hp
    rw [hT]
    exact (h.held o' p ho').append hF
  · rcases append_eq_append_cons (hT.symm.trans hEq) with ⟨post', h'⟩ | ⟨a, b, rfl, -⟩
    · exact h.sslNew pre p r post' h'
    · exact absurd (List.mem_append_right a (List.mem_cons_self _ b)) (hNew p r)

theorem SetUp.of_ctx (h : SetUp w) {w' : World} (hT : w'.trace = w.trace)
    (hC : ∀ o p, w'.ctx o = some p → ∃ o', w.ctx o' = some p) : SetUp w' :=
  h.extend [] (by rw [hT, List.append_nil]) (fun o p hp => ⟨hC o p hp, List.not_mem_nil _⟩)
    fun _ _ => List.not_mem_nil _

theorem SetUp.call (h : SetUp w) {c : SslCall} (hF : ∀ p, c ≠ .ctxFree p)
    (hN : ∀ p r, c ≠ .sslNew p r) : SetUp (w.call c) :=
  h.extend [c] rfl (fun o p hp => ⟨⟨o, hp⟩, fun hm => hF p (List.mem_singleton.mp hm).symm⟩)
    fun p r hm => hN p r (List.mem_singleton.mp hm).symm

/-- `SSL_new` on a configured context. -/
theorem SetUp.sslNewCall (h : SetUp w) {p : Nat} (hp : Configured w.trace p) (r : Option Nat) :
    SetUp (w.call (.sslNew p r)) := by
  refine ⟨fun o q hq => (h.held o q hq).append (by simp), fun pre q r' post hEq => ?_⟩
  rcases append_eq_append_cons hEq with ⟨post', h'⟩ | ⟨a, b, hCs, rfl⟩
  · exact h.sslNew pre q r' post' h'
  · rcases a with _ | ⟨y, a⟩
    · simp only [List.nil_append, List.cons.injEq, SslCall.sslNew.injEq] at hCs
      obtain ⟨⟨rfl, -⟩, -⟩ := hCs
      simpa using hp
    · simp at hCs

/-- A configured context, handed to the object at `o`. -/
theorem SetUp.adopt (h : SetUp w) {o p : Nat} (hp : Configured w.trace p) :
    SetUp (w.setCtx o (some p)) := by
  refine ⟨fun o' q hq => ?_, h.sslNew⟩
  rw [World.ctx_setCtx] at hq
  split_ifs at hq
  · cases hq; exact hp
  · exact h.held o' q hq

theorem World.ctx_moved {w : World} {o other o' p : Nat}
    (h : ((w.setCtx o (w.ctx other)).setCtx other none).ctx o' = some p) :
    ∃ o'', w.ctx o'' = some p := by
  rw [World.ctx_setCtx, World.ctx_setCtx] at h
  split_ifs at h
  · exact ⟨other, h⟩
  · exact ⟨o', h⟩

theorem reset_setUp (h : SetUp w) (hO : Owned w none) (o : Nat) : SetUp (reset w o) := by
  unfold reset
  rcases hHeld : w.ctx o with _ | q
  · exact h
  show SetUp ((w.call (.ctxFree q)).setCtx o none)
  refine h.extend [.ctxFree q] rfl (fun o' p hp => ?_) (by simp)
  rw [World.ctx_setCtx] at hp
  split_ifs at hp with e
  refine ⟨⟨o', hp⟩, ?_⟩
  simp only [List.mem_singleton, SslCall.ctxFree.injEq]
  rintro rfl
  exact e (hO.unique o' o p hp hHeld)

/-- `init` hands the object its context only after `SSL_CTX_set_options` and the stages,
which set the verification mode, went through; every other call it makes is on that context,
which no object holds, or frees it. -/
theorem init_setUp (h : SetUp w) (hO : Owned w none) (ssl : OpenSsl) (o : Nat)
    (opt : WebSocketTLSOptions) : SetUp (init ssl w o opt).2.2 := by
  have h1 := reset_setUp h hO o
  have hO1 := reset_owned hO o
  unfold init
  generalize reset w o = w1 at h1 hO1
  dsimp only
  rcases hr : ssl.ctxNew w1.trace with _ | p
  · exact (h1.call (fun _ h => by cases h) (fun _ _ h => by cases h)).call (fun _ h => by cases h)
      (fun _ _ h => by cases h)
  dsimp only
  have hFresh := ssl.ctxNew_fresh _ _ hr
  have hV := stages_setVerify ssl p opt ((w1.call (.ctxNew (some p))).call (.setOptions p))
  obtain ⟨hC, -, ⟨cs, hT, hcs, hF⟩, -⟩ :=
    stages_keeps ssl p opt ((w1.call (.ctxNew (some p))).call (.setOptions p))
  rcases hs : ((setCiphers ssl p opt).andThen ((setVerification ssl p opt).andThen
      (setClientCert ssl p opt))) ((w1.call (.ctxNew (some p))).call (.setOptions p)) with
    ⟨r, w4⟩
  rw [hs] at hV hC hT hF
  dsimp only at hV hC hT hF ⊢
  have hT4 : w4.trace = w1.trace ++ .ctxNew (some p) :: .setOptions p :: cs := by rw [hT]; simp
  have h4 : SetUp w4 := by
    refine h1.extend _ hT4 (fun o' q hq => ?_) fun q r hm => ?_
    · rw [hC] at hq
      refine ⟨⟨o', hq⟩, fun hm => ?_⟩
      have hqp : q ≠ p := fun e => hFresh (e ▸ hO1.held_live o' q hq)
      simp only [List.mem_cons, reduceCtorEq, false_or] at hm
      exact hqp (hcs _ hm)
    · simp only [List.mem_cons, reduceCtorEq, false_or] at hm
      exact hcs _ hm
  cases r
  · obtain ⟨cs', peer, hT', hVm⟩ := hV rfl
    have hcs' : cs' = cs := List.append_cancel_left (hT'.symm.trans hT)
    subst hcs'
    exact h4.adopt ⟨w1.trace, .setOptions p :: cs', hT4, by simpa using hF rfl,
      List.mem_cons_self _ _, peer, List.mem_cons_of_mem _ hVm⟩
  · exact h4

theorem createSsl_setUp (h : SetUp w) (ssl : OpenSsl) (o : Nat) :
    SetUp (createSsl ssl w o).2.2 := by
  unfold createSsl
  rcases hHeld : w.ctx o with _ | p
  · exact h
  have h1 := h.sslNewCall (h.held o p hHeld) (ssl.sslNew w.trace p)
  dsimp only
  rcases hn : ssl.sslNew w.trace p with _ | _ <;> rw [hn] at h1
  · exact h1.call (fun _ h => by cases h) (fun _ _ h => by cases h)
  · exact h1

/-- Every allowed method keeps every held context configured. -/
theorem Op.setUp (ssl : OpenSsl) (hO : Owned w none) (h : SetUp w) :
    ∀ op : Op, op.Allowed w → SetUp (op.apply ssl w)
  | .construct o, (hFree : w.objects o = none) =>
    h.of_ctx rfl fun o' _ hp => ⟨o', (congrFun (World.ctx_setCtx_of_eq (w := w) (o := o) (c := none)
      (by simp [World.ctx, hFree])) o').symm.trans hp⟩
  | .moveConstruct _ _, _ => h.of_ctx rfl fun _ _ => World.ctx_moved
  | .moveAssign o other, _ => by
    show SetUp (TLSContext.moveAssign w o other)
    unfold TLSContext.moveAssign
    split_ifs
    · exact h
    · exact (reset_setUp h hO o).of_ctx rfl fun _ _ => World.ctx_moved
  | .destroy o, _ => (reset_setUp h hO o).of_ctx rfl fun o' _ hp => ⟨o', destroy_ctx w o ▸ hp⟩
  | .reset o, _ => reset_setUp h hO o
  | .init o opt, _ => init_setUp h hO ssl o opt
  | .createSsl o, _ => createSsl_setUp h ssl o

/-- Over every sequence of allowed methods, whatever OpenSSL answers: every context an object
holds was given `SSL_CTX_set_options` and `SSL_CTX_set_verify` after the `SSL_CTX_new`
that made it and has not been freed since; and every `SSL_new` so far was called on a context
that was so at the time. `init` hands an object its context only once both calls are made. -/
theorem reachable_configured {ssl : OpenSsl} {w : World} (h : Reachable ssl w) :
    (∀ o p, w.ctx o = some p → Configured w.trace p) ∧
      ∀ pre p r post, w.trace = pre ++ .sslNew p r :: post → Configured pre p := by
  have hI : Owned w none ∧ SetUp w := by
    induction h with
    | init => exact ⟨owned_empty, setUp_empty⟩
    | op _ op hOk ih => exact ⟨Op.owned ssl ih.1 op hOk, Op.setUp ssl ih.1 ih.2 op hOk⟩
  exact ⟨hI.2.held, hI.2.sslNew⟩

/-- An object at address 0, initialised to verify peers against the system CA store, and an
`SSL` made from it. -/
theorem reachable_configured_createSsl :
    let opt : WebSocketTLSOptions :=
      ⟨false, "", "", false, true, false, "", false, "", ""⟩
    let w := Op.apply acceptingSsl
      (Op.apply acceptingSsl (Op.apply acceptingSsl {} (.construct 0)) (.init 0 opt))
      (.createSsl 0)
    Reachable acceptingSsl w ∧
      (∀ o p, w.ctx o = some p → Configured w.trace p) ∧
      ∀ pre p r post, w.trace = pre ++ .sslNew p r :: post → Configured pre p := by
  intro opt w
  have h : Reachable acceptingSsl w :=
    .op (.op (.op .init (.construct 0) rfl) (.init 0 opt) rfl) (.createSsl 0) rfl
  exact ⟨h, reachable_configured h⟩

end TLSContext
end Libwsc
