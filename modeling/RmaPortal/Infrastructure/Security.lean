import RmaPortal.Infrastructure.Employees

/-!
# Passwords and session tokens

`infrastructure/security`: what employees prove who they are with.  A password is kept as an
argon2 hash.  A session is kept nowhere: the browser holds a token, the user's identifier with a
time and a signature, and whoever can show such a token is logged in until it is too old.

The libraries that do the work are parameters: `Argon2` and `Serializer`.

## What is here

* `Argon2`, `Argon2.Lawful` — the hasher, and what is assumed of it where that is needed: a hash
  is that of the password it was made from.
* `hashPassword`, `verifyPassword`, `minPasswordLength` — the two functions; a password that is
  too short is refused before it is hashed, and verifying one never raises.
* `Payload` — the payload of a token, a JSON value, as far as `decode` tells such values apart.
* `Serializer`, `Serializer.Lawful` — signing, and reading what is signed; and what is assumed of
  it: a token that the site has made is read as what it was made from.  Which strings there are
  that are read so is not said.
* `SessionCodec`, `encode`, `decode`, `Fresh` — `decode` looks at the signature, then at the age,
  and then for the identifier of a user, which has to be an integer.
* `decode_encode`, `decode_eq_some` — a token names the user it was issued to until it is too old,
  and whom a token names has been named when it was signed.
-/

set_option autoImplicit false

namespace RmaPortal

/-! ## Passwords -/

/-- `argon2.PasswordHasher()` -/
structure Argon2 where
  /-- The hash of a password under a random salt, which is part of it. -/
  hash : String → String → String
  /-- Whether `verify` returns; else it raises `VerifyMismatchError`, `VerificationError` or
  `InvalidHashError`. -/
  verify : String → String → Bool

/-- A hash is verified by the password it was made from, and by no other. -/
def Argon2.Lawful (argon2 : Argon2) : Prop :=
  ∀ salt password other, argon2.verify (argon2.hash salt password) other = decide (other = password)

namespace Passwords

def minPasswordLength : ℕ := 10

def weakPasswordError (minLength : ℕ) : Exn :=
  .exception "WeakPasswordError"
    ("password must be at least " ++ toString minLength ++ " characters")

variable (argon2 : Argon2)

/-- `hash_password`, with the salt that the hasher draws. -/
def hashPassword (salt password : String) : Except Exn String :=
  if password.length < minPasswordLength then .error (weakPasswordError minPasswordLength)
  else .ok (argon2.hash salt password)

/-- `verify_password` -/
def verifyPassword (passwordHash password : String) : Bool := argon2.verify passwordHash password

end Passwords

/-! ## Session tokens -/

/-- The payload of a token, a JSON value: as far as `decode` tells such values apart. -/
inductive Payload
  | int (n : ℤ)
  | bool (b : Bool)
  | dict (items : List (String × Payload))
  | other

/-- `itsdangerous.URLSafeTimedSerializer(secret, salt=_SALT)` -/
structure Serializer where
  /-- `dumps`, at a time in seconds. -/
  dumps : ℕ → Payload → String
  /-- The time and the payload of a token whose signature is right. -/
  unsign : String → Option (ℕ × Payload)

/-- What the site puts into a token. -/
def Payload.ofUser (userId : ℕ) : Payload := .dict [("uid", .int userId)]

/-- A token that the site has made is read as what it was made from. -/
def Serializer.Lawful (serializer : Serializer) : Prop :=
  ∀ time userId, serializer.unsign (serializer.dumps time (.ofUser userId)) =
    some (time, .ofUser userId)

/-- `SessionCodec` -/
structure SessionCodec where
  serializer : Serializer
  maxAgeSeconds : ℕ

namespace SessionCodec

variable (codec : SessionCodec)

/-- `encode`, at a time. -/
def encode (now userId : ℕ) : String :=
  codec.serializer.dumps now (.ofUser userId)

/-- `payload.get("uid")`, if it is an `int`. -/
def uid : Payload → Except Exn (Option ℤ)
  | .dict items =>
    match items.find? fun item ↦ item.1 == "uid" with
    | some (_, .int n) => .ok (some n)
    | some (_, .bool b) => .ok (some (if b then 1 else 0))
    | _ => .ok none
  | _ => .error (.exception "AttributeError" "object has no attribute 'get'")

@[simp] theorem uid_ofUser (userId : ℕ) : uid (.ofUser userId) = .ok (some (userId : ℤ)) := rfl

/-- A token of this age is still taken. -/
def Fresh (issued now : ℕ) : Prop := issued ≤ now ∧ now ≤ issued + codec.maxAgeSeconds

instance (issued now : ℕ) : Decidable (codec.Fresh issued now) :=
  inferInstanceAs (Decidable (_ ∧ _))

/-- `decode`, at a time: which user a token was issued to, if its signature is right and it is not
too old. -/
def decode (token : String) (now : ℕ) : Except Exn (Option ℤ) :=
  match codec.serializer.unsign token with
  | none => .ok none
  | some (issued, payload) => if codec.Fresh issued now then uid payload else .ok none

/-- **A token names the user it was issued to** until it is too old, and nobody before or after. -/
theorem decode_encode (h : codec.serializer.Lawful) (issued now userId : ℕ) :
    codec.decode (codec.encode issued userId) now =
      .ok (if codec.Fresh issued now then some (userId : ℤ) else none) := by
  simp only [decode, encode, h issued]
  split <;> rfl

/-- Whom a token names has been named when it was signed. -/
theorem decode_eq_some {token : String} {now : ℕ} {userId : ℤ}
    (h : codec.decode token now = .ok (some userId)) :
    ∃ issued payload, codec.serializer.unsign token = some (issued, payload) ∧
      codec.Fresh issued now ∧ uid payload = .ok (some userId) := by
  unfold decode at h
  split at h
  · cases h
  rename_i issued payload hunsign
  split at h
  · rename_i hfresh
    exact ⟨issued, payload, hunsign, hfresh, h⟩
  · cases h

end SessionCodec

end RmaPortal
