import ProxyRouting.Credentials

/-!
# The two sources of credentials

A proxy can have a user and a password in its URL, and others beside it. The credentials with which
it is used are those of one source, never a user of the one with a password of the other, and
neither of the two is empty (`credentials?_eq_some_iff`). The source is the URL if its pair is
complete. The pair beside the URL takes its place if the URL is not usable or names no user, and
only then (`credentials_from_one_source`): where the URL names a user without a password, there are
no credentials, whatever stands beside it (`credentials_lost_beside_user`).
-/

namespace ProxyRouting

/-- Neither the user nor the password is empty. -/
structure Credentials.Complete (credentials : Credentials) : Prop where
  /-- There is a user. -/
  username : credentials.username ≠ []
  /-- There is a password. -/
  password : credentials.password ≠ []

theorem Credentials.complete?_eq_some_iff {given credentials : Credentials} :
    given.complete? = some credentials ↔ given = credentials ∧ credentials.Complete := by
  unfold complete?
  split
  · next empty =>
    simp only [reduceCtorEq, false_iff, not_and]
    rintro rfl ⟨username, password⟩
    rcases empty with eq | eq
    · exact username eq
    · exact password eq
  · next full =>
    rw [Option.some.injEq]
    constructor
    · rintro rfl
      exact ⟨rfl, fun eq => full (Or.inl eq), fun eq => full (Or.inr eq)⟩
    · exact And.left

namespace Proxy

/-- Where a user and a password can stand. -/
inductive Source where
  /-- In the URL. -/
  | url
  /-- Beside the URL. -/
  | explicit

/-- The user and the password that stand there: in a usable URL, where a missing one is empty, or
in the two fields beside it. -/
def Gives (proxy : Proxy) : Source → Credentials → Prop
  | .url, c => ∃ url, Url.parse? proxy.url = some url ∧ url.username = c.username ∧
      url.password = c.password
  | .explicit, c => proxy.username = some c.username ∧ proxy.password = some c.password

/-- The URL is usable and names a user. -/
def UrlNamesUser (proxy : Proxy) : Prop := ∃ c, proxy.Gives .url c ∧ c.username ≠ []

variable {proxy : Proxy} {credentials : Credentials}

theorem urlCredentials?_eq_some_iff :
    proxy.urlCredentials? = some credentials ↔
      proxy.Gives .url credentials ∧ credentials.username ≠ [] := by
  unfold urlCredentials?
  constructor
  · intro found
    split at found
    · next url parses =>
      split at found
      · cases found
      · next named =>
        cases found
        exact ⟨⟨url, parses, rfl, rfl⟩, named⟩
    · cases found
  · rintro ⟨⟨url, parses, user, secret⟩, named⟩
    rw [parses]
    dsimp only
    rw [if_neg (user ▸ named), user, secret]

theorem urlCredentials?_eq_none_iff : proxy.urlCredentials? = none ↔ ¬ proxy.UrlNamesUser := by
  rw [Option.eq_none_iff_forall_ne_some, UrlNamesUser, not_exists]
  exact forall_congr' fun _ => not_congr urlCredentials?_eq_some_iff

/-- Fields that are not configured count as empty, so they are no complete pair. -/
theorem explicitCredentials_eq_iff (complete : credentials.Complete) :
    proxy.explicitCredentials = credentials ↔ proxy.Gives .explicit credentials := by
  constructor
  · rintro rfl
    cases user : proxy.username with
    | none => exact absurd (by rw [explicitCredentials, user]; rfl) complete.username
    | some username =>
      cases secret : proxy.password with
      | none => exact absurd (by rw [explicitCredentials, secret]; rfl) complete.password
      | some password =>
        rw [explicitCredentials, user, secret]
        exact ⟨user, secret⟩
  · rintro ⟨user, secret⟩
    rw [explicitCredentials, user, secret]
    rfl

/-- **Credentials are complete and come from one source**: from the URL, or else, if it names no
user, from what is configured beside it. -/
theorem credentials?_eq_some_iff :
    proxy.credentials? = some credentials ↔ credentials.Complete ∧
      (proxy.Gives .url credentials ∨
        ¬ proxy.UrlNamesUser ∧ proxy.Gives .explicit credentials) := by
  rw [Proxy.credentials?, Credentials.complete?_eq_some_iff, and_comm]
  refine and_congr_right fun complete => ?_
  cases found : proxy.urlCredentials? with
  | none =>
    have noUser := urlCredentials?_eq_none_iff.1 found
    rw [Option.getD_none, explicitCredentials_eq_iff complete]
    constructor
    · intro explicit
      exact Or.inr ⟨noUser, explicit⟩
    · rintro (own | ⟨-, explicit⟩)
      · exact absurd ⟨credentials, own, complete.username⟩ noUser
      · exact explicit
  | some own =>
    obtain ⟨given, named⟩ := urlCredentials?_eq_some_iff.1 found
    rw [Option.getD_some]
    constructor
    · rintro rfl
      exact Or.inl given
    · rintro (same | ⟨noUser, -⟩)
      · have := urlCredentials?_eq_some_iff.2 ⟨same, complete.username⟩
        exact Option.some.inj (found.symm.trans this)
      · exact absurd ⟨own, given, named⟩ noUser

/-- A complete pair in the URL is used, whatever stands beside it. -/
theorem credentials?_of_url (given : proxy.Gives .url credentials)
    (complete : credentials.Complete) : proxy.credentials? = some credentials :=
  credentials?_eq_some_iff.2 ⟨complete, Or.inl given⟩

/-- **Pairs are not mixed, and the URL comes first.** Credentials are complete and those of one
source. They are those of the URL if these are complete, and a complete pair beside the URL if the
URL names no user. If it names a user without a password, there are none. -/
theorem credentials_from_one_source (proxy : Proxy) :
    (∀ c, proxy.credentials? = some c → c.Complete ∧ ∃ source, proxy.Gives source c) ∧
    (∀ c, proxy.Gives .url c → c.Complete → proxy.credentials? = some c) ∧
    (∀ c, proxy.Gives .explicit c → c.Complete → ¬ proxy.UrlNamesUser →
      proxy.credentials? = some c) ∧
    ∀ c, proxy.Gives .url c → c.username ≠ [] → c.password = [] → proxy.credentials? = none := by
  refine ⟨?_, ?_, ?_, ?_⟩
  · intro c found
    obtain ⟨complete, own | ⟨-, explicit⟩⟩ := credentials?_eq_some_iff.1 found
    · exact ⟨complete, .url, own⟩
    · exact ⟨complete, .explicit, explicit⟩
  · intro c given complete
    exact credentials?_of_url given complete
  · intro c given complete noUser
    exact credentials?_eq_some_iff.2 ⟨complete, Or.inr ⟨noUser, given⟩⟩
  · intro c given named noPassword
    have found := urlCredentials?_eq_some_iff.2 ⟨given, named⟩
    rw [Proxy.credentials?, found, Option.getD_some]
    exact if_pos (Or.inr noPassword)

/-- A complete pair beside a URL with another one, with a password and no user, and with a user and
no password. -/
theorem credentials_from_one_source_of_three_urls :
    ({ name := ascii "p", url := ascii "http://a:b@h"
       username := some (ascii "u"), password := some (ascii "s") } : Proxy).credentials? =
      some ⟨ascii "a", ascii "b"⟩ ∧
    ({ name := ascii "p", url := ascii "http://:b@h"
       username := some (ascii "u"), password := some (ascii "s") } : Proxy).credentials? =
      some ⟨ascii "u", ascii "s"⟩ ∧
    ({ name := ascii "p", url := ascii "http://a@h"
       username := some (ascii "u"), password := some (ascii "s") } : Proxy).credentials? =
      none := by
  have both : Url.parse? (ascii "http://a:b@h") = some
      { scheme := ascii "http", host := ascii "h", port := 80
        username := ascii "a", password := ascii "b" } := by decide +kernel
  have userAlone : Url.parse? (ascii "http://a@h") = some
      { scheme := ascii "http", host := ascii "h", port := 80
        username := ascii "a", password := [] } := by decide +kernel
  refine ⟨?_, ?_, ?_⟩
  · exact (credentials_from_one_source _).2.1 ⟨ascii "a", ascii "b"⟩ ⟨_, both, rfl, rfl⟩
      ⟨by decide, by decide⟩
  · exact (credentials_from_one_source _).2.2.1 ⟨ascii "u", ascii "s"⟩ ⟨rfl, rfl⟩
      ⟨by decide, by decide⟩ (urlCredentials?_eq_none_iff.1 (by decide +kernel))
  · exact (credentials_from_one_source _).2.2.2 ⟨ascii "a", []⟩ ⟨_, userAlone, rfl, rfl⟩
      (by decide) rfl

/-- A user without a password in the URL hides the complete pair beside it. -/
theorem credentials_lost_beside_user :
    Gives { name := ascii "p", url := ascii "http://nopass@proxy:8080"
            username := some (ascii "u"), password := some (ascii "s") } .explicit
        ⟨ascii "u", ascii "s"⟩ ∧
      Credentials.Complete ⟨ascii "u", ascii "s"⟩ ∧
      ({ name := ascii "p", url := ascii "http://nopass@proxy:8080"
         username := some (ascii "u"), password := some (ascii "s") } : Proxy).credentials? =
        none :=
  ⟨⟨rfl, rfl⟩, ⟨by decide, by decide⟩, by decide +kernel⟩

end Proxy

end ProxyRouting
