import ProxyRouting.Proofs.Credentials.Sources
import ProxyRouting.Proofs.Url.Grammar

/-!
# Credentials in a URL

Every user and every password can be written in a URL, whatever their bytes are, if neither is
empty: a byte that would end its part is written as an escape, and any other may be. In each of
these spellings the URL is read as the one without a user part, with that user and that password,
and they are the proxy's credentials (`embedded_credentials`).
-/

namespace ProxyRouting.Url

/-- The bytes that cannot stand for themselves in a user or a password. -/
def delimiters : Bytes := [percentSign, colon, atSign, slash, questionMark, numberSign]

/-- A text of a user or a password: each byte as itself or as an escape. -/
def WritesField : Bytes → Bytes → Prop := Percent.Writes (· ∉ delimiters)

variable {raw text : Bytes}

theorem WritesField.decode (writes : WritesField raw text) : Percent.decode text = raw :=
  Percent.decode_of_writes (by decide) writes

/-- The only delimiter in a field is the percent sign. -/
theorem WritesField.not_mem {b : UInt8} (writes : WritesField raw text) (delimiter : b ∈ delimiters)
    (notPercent : b ≠ percentSign) : b ∉ text := by
  intro mem
  have noDigit : ∀ b ∈ delimiters, b ∉ ascii "0123456789abcdefABCDEF" := by
    decide +kernel
  rcases Percent.Writes.mem writes mem with plain | percent | digit
  · exact plain delimiter
  · exact notPercent percent
  · exact noDigit b delimiter digit

theorem WritesField.inside {b : UInt8} (writes : WritesField raw text) (mem : b ∈ text) :
    endsAuthority b = false := by
  rw [← Bool.not_eq_true]
  intro ends
  have : b = slash ∨ b = questionMark ∨ b = numberSign := by
    simpa [endsAuthority, or_assoc] using ends
  rcases this with rfl | rfl | rfl
  · exact writes.not_mem (by decide) (by decide) mem
  · exact writes.not_mem (by decide) (by decide) mem
  · exact writes.not_mem (by decide) (by decide) mem

/-- A user part is read as what its two fields spell. -/
theorem namesUser_of_writes {username password user secret : Bytes}
    (writesUser : WritesField username user) (writesSecret : WritesField password secret) :
    NamesUser (user ++ colon :: secret) (username, password) :=
  .withPassword (writesUser.not_mem (by decide) (by decide))
    (Percent.decode_eq_iff.1 writesUser.decode) (Percent.decode_eq_iff.1 writesSecret.decode)

namespace Spelling

variable {spelling : Spelling} {url : Url}

/-- The same URL with a user part before its host. -/
def withUser (spelling : Spelling) (user : Bytes) (inside : ∀ b ∈ user, endsAuthority b = false) :
    Spelling where
  scheme := spelling.scheme
  authority := user ++ atSign :: spelling.authority
  rest := spelling.rest
  colon_not_mem := spelling.colon_not_mem
  inside b mem := by
    rcases List.mem_append.1 mem with before | after
    · exact inside b before
    rcases List.mem_cons.1 after with rfl | host
    · rfl
    · exact spelling.inside b host
  outside := spelling.outside

/-- Only the user and the password of the URL become others. -/
theorem names_withUser {user : Bytes} {pair : Bytes × Bytes}
    (inside : ∀ b ∈ user, endsAuthority b = false) (noUser : atSign ∉ spelling.authority)
    (namesUser : NamesUser user pair) (names : spelling.Names url) :
    (spelling.withUser user inside).Names
      { url with username := pair.1, password := pair.2 } := by
  obtain ⟨scheme, fallback, supported, authority⟩ := names
  exact ⟨scheme, fallback, supported, .withUser noUser namesUser (authority.namesHost noUser)⟩

end Spelling

/-- **Any credentials can be embedded in a URL.** -/
theorem embedded_credentials {spelling : Spelling} {url : Url}
    {username password user secret : Bytes} (parses : parse? spelling.text = some url)
    (noUser : atSign ∉ spelling.authority) (userGiven : username ≠ [])
    (passwordGiven : password ≠ []) (writesUser : WritesField username user)
    (writesSecret : WritesField password secret) :
    parse? (spelling.scheme ++ ascii "://" ++
        (user ++ colon :: secret ++ atSign :: spelling.authority ++ spelling.rest)) =
      some { url with username, password } ∧
    ∀ proxy : Proxy, proxy.url = spelling.scheme ++ ascii "://" ++
        (user ++ colon :: secret ++ atSign :: spelling.authority ++ spelling.rest) →
      proxy.credentials? = some ⟨username, password⟩ := by
  have inside : ∀ b ∈ user ++ colon :: secret, endsAuthority b = false := by
    intro b mem
    rcases List.mem_append.1 mem with before | after
    · exact writesUser.inside before
    rcases List.mem_cons.1 after with rfl | behind
    · rfl
    · exact writesSecret.inside behind
  have embedded : parse? (spelling.withUser _ inside).text = some { url with username, password } :=
    Spelling.parse?_text_iff.2 (Spelling.names_withUser inside noUser
      (namesUser_of_writes writesUser writesSecret) (Spelling.parse?_text_iff.1 parses))
  refine ⟨embedded, fun proxy eq => ?_⟩
  have given : proxy.Gives .url ⟨username, password⟩ :=
    ⟨_, (congrArg parse? eq).trans embedded, rfl, rfl⟩
  exact Proxy.credentials?_of_url given ⟨userGiven, passwordGiven⟩

/-- A user `a:b@` and a password that is a `%` and a byte that is no text, before an address in
brackets and a path with an `@`. -/
theorem embedded_credentials_with_delimiters :
    parse? (ascii "https://a%3ab%40:%25" ++ 0xFF :: ascii "@[::1]:8443/x@y") =
      some { scheme := ascii "https", host := ascii "::1", port := 8443
             username := ascii "a:b@", password := [percentSign, 0xFF] } ∧
    ({ name := [], url := ascii "https://a%3ab%40:%25" ++ 0xFF :: ascii "@[::1]:8443/x@y"
       username := some (ascii "u"), password := some (ascii "s") } : Proxy).credentials? =
      some ⟨ascii "a:b@", [percentSign, 0xFF]⟩ := by
  let spelling : Spelling :=
    { scheme := ascii "https", authority := ascii "[::1]:8443", rest := ascii "/x@y"
      colon_not_mem := by decide, inside := by decide +kernel, outside := by decide +kernel }
  have parses : parse? spelling.text = some
      { scheme := ascii "https", host := ascii "::1", port := 8443
        username := [], password := [] } := by decide +kernel
  have writesUser : WritesField (ascii "a:b@") (ascii "a%3ab%40") :=
    .plain (by decide) (.escape ⟨Or.inl rfl, Or.inl rfl⟩ (.plain (by decide)
      (.escape ⟨Or.inl rfl, Or.inl rfl⟩ .nil)))
  have writesSecret : WritesField [percentSign, 0xFF] (ascii "%25" ++ [0xFF]) :=
    .escape ⟨Or.inl rfl, Or.inl rfl⟩ (.plain (by decide) .nil)
  have embedded := embedded_credentials parses (by decide) (by decide) (by decide) writesUser
    writesSecret
  exact ⟨embedded.1, embedded.2 _ rfl⟩

end ProxyRouting.Url
