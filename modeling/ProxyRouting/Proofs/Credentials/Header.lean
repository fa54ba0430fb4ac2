import ProxyRouting.Credentials
import ProxyRouting.Proofs.Text.Base64

/-!
# The Basic header gives back the credentials

The value of the header is `Basic ` and the Base64 text of the user, a colon and the password. The
text is the only one of these bytes and is read back to them (`Base64.decode?_eq_some_iff`), so that
nothing is lost but the place of the colon: credentials whose users hold no colon are told apart by
their headers (`basicHeader_gives_back`).
-/

namespace ProxyRouting.Credentials

variable {credentials other : Credentials}

/-- What the header encodes: `user:password`. -/
def userinfo (credentials : Credentials) : Bytes :=
  credentials.username ++ colon :: credentials.password

theorem basicHeader_eq_iff :
    credentials.basicHeader = other.basicHeader ↔ credentials.userinfo = other.userinfo := by
  unfold basicHeader
  rw [List.append_cancel_left_eq]
  exact Base64.encode_inj

/-- Without a colon in the user, the first colon is the one between user and password. -/
theorem cutFirst?_userinfo (noColon : colon ∉ credentials.username) :
    cutFirst? colon credentials.userinfo = some (credentials.username, credentials.password) :=
  cutFirst?_eq_some_iff.2 ⟨rfl, noColon⟩

theorem userinfo_eq_iff (noColon : colon ∉ credentials.username)
    (noColon' : colon ∉ other.username) :
    credentials.userinfo = other.userinfo ↔ credentials = other := by
  refine ⟨fun same => ?_, congrArg userinfo⟩
  have cut := cutFirst?_userinfo noColon
  rw [same, cutFirst?_userinfo noColon'] at cut
  obtain ⟨username, password⟩ := credentials
  obtain ⟨username', password'⟩ := other
  cases cut
  rfl

/-- **The Basic header gives back the credentials.** What is encoded is written as its Base64 text,
which has four characters for every three bytes that are begun, and reading is the inverse of that.
Behind `Basic `, a header holds the text of `user:password`; for users without a colon it is
different for different credentials. -/
theorem basicHeader_gives_back :
    (∀ bytes, Base64.Writes bytes (Base64.encode bytes) ∧
      (Base64.encode bytes).length = 4 * ((bytes.length + 2) / 3)) ∧
    (∀ text bytes, Base64.decode? text = some bytes ↔ Base64.Writes bytes text) ∧
    (∀ credentials : Credentials, ∃ text, credentials.basicHeader = ascii "Basic " ++ text ∧
      Base64.decode? text = some (credentials.username ++ colon :: credentials.password)) ∧
    ∀ credentials other : Credentials, colon ∉ credentials.username → colon ∉ other.username →
      (credentials.basicHeader = other.basicHeader ↔ credentials = other) := by
  refine ⟨fun bytes => ?_, fun _ _ => Base64.decode?_eq_some_iff, fun credentials => ?_,
    fun credentials other noColon noColon' => ?_⟩
  · have writes := Base64.writes_encode bytes
    exact ⟨writes, writes.length⟩
  · exact ⟨_, rfl, Base64.decode?_encode credentials.userinfo⟩
  · rw [basicHeader_eq_iff, userinfo_eq_iff noColon noColon']

/-- Passwords with a colon, and one that is the end of another. -/
theorem basicHeader_gives_back_of_colons :
    (⟨ascii "ann", ascii "a:b"⟩ : Credentials).basicHeader = ascii "Basic YW5uOmE6Yg==" ∧
      ((⟨ascii "ann", ascii "a:b"⟩ : Credentials).basicHeader =
          (⟨ascii "ann", ascii "b"⟩ : Credentials).basicHeader ↔
        (⟨ascii "ann", ascii "a:b"⟩ : Credentials) = ⟨ascii "ann", ascii "b"⟩) :=
  ⟨by decide +kernel, basicHeader_gives_back.2.2.2 _ _ (by decide) (by decide)⟩

end ProxyRouting.Credentials
