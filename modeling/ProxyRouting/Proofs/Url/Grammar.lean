import Mathlib.Data.List.TakeWhile
import ProxyRouting.Proofs.Text.Cutting
import ProxyRouting.Proofs.Text.Percent
import ProxyRouting.Proofs.Url.Parts

/-!
# The grammar of URLs

A text is accepted as the URL of a proxy exactly if it is spelled by the grammar

    scheme "://" [ userinfo "@" ] host [ ":" port ] [ ( "/" | "?" | "#" ) ... ]

where the user part ends at the last `@` of the authority and is cut at its first colon, and the
host stands in brackets, or ends at the last colon. The grammar is written down rule by rule:
`Scheme.Supported`, `NamesUser`, `NamesHost`, `NamesAuthority`, and `Spelling`, which is a text
together with the two places where it is cut first. Each rule is shown to say what one function of
the reader computes (`userinfo_eq_iff`, `namesHost_iff`, `namesAuthority_iff`), and for a whole text
they are put together in `Spelling.parse?_text_iff`. No rule mentions what follows the authority, so
that it does not count.
-/

namespace ProxyRouting

namespace Url

section Parts

variable {text : Bytes} {fallback : UInt16} {target : HostPort} {pair : Bytes × Bytes}

/-! ### The host -/

/-- The texts of a target: the host in brackets, or else with its letters made small when it is
read, and the port, or else the fallback port. -/
inductive NamesHost (fallback : UInt16) : Bytes → HostPort → Prop
  /-- A host. -/
  | bare {host : Bytes} : host ≠ [] → host.head? ≠ some openBracket → colon ∉ host →
      NamesHost fallback host ⟨lower host, fallback⟩
  /-- A host, which may hold colons, and a port. -/
  | barePort {host digits : Bytes} {port : UInt16} :
      host ≠ [] → host.head? ≠ some openBracket → Decimal.WritesPort port digits →
      NamesHost fallback (host ++ colon :: digits) ⟨lower host, port⟩
  /-- A host in brackets. -/
  | bracketed {host : Bytes} : host ≠ [] → closeBracket ∉ host →
      NamesHost fallback (openBracket :: (host ++ [closeBracket])) ⟨host, fallback⟩
  /-- A host in brackets and a port. -/
  | bracketedPort {host digits : Bytes} {port : UInt16} :
      host ≠ [] → closeBracket ∉ host → Decimal.WritesPort port digits →
      NamesHost fallback (openBracket :: (host ++ closeBracket :: colon :: digits)) ⟨host, port⟩

theorem lower_ne_nil_iff : lower text ≠ [] ↔ text ≠ [] := not_congr List.map_eq_nil_iff

theorem unbracketedHost_of_not_mem (noColon : colon ∉ text) :
    unbracketedHost text = ⟨lower text, none⟩ := by
  rw [unbracketedHost, HostText.ofLastColon_of_not_mem noColon]

theorem unbracketedHost_of_last {host port : Bytes} (noColon : colon ∉ port) :
    unbracketedHost (host ++ colon :: port) = ⟨lower host, some port⟩ := by
  rw [unbracketedHost, HostText.ofLastColon_of_last noColon]

/-- What is read in brackets is spelled by the grammar. -/
theorem namesHost_of_bracketed
    (reads : ∃ parts, HostText.ofBracketed? text = some parts ∧
      parts.resolve? fallback = some target) :
    NamesHost fallback (openBracket :: text) target := by
  obtain ⟨host, port⟩ := target
  obtain ⟨nonempty, inside, ⟨rfl, rfl⟩ | ⟨digits, rfl, writes⟩⟩ :=
    HostText.resolve?_ofBracketed?_iff.1 reads
  · exact .bracketed nonempty inside
  · exact .bracketedPort nonempty inside writes

/-- What is read outside of brackets is spelled by the grammar. -/
theorem namesHost_of_unbracketed (bare : text.head? ≠ some openBracket)
    (resolves : (unbracketedHost text).resolve? fallback = some target) :
    NamesHost fallback text target := by
  cases cut : cutLast? colon text with
  | none =>
    have noColon := cutLast?_eq_none_iff.1 cut
    rw [unbracketedHost_of_not_mem noColon] at resolves
    obtain ⟨nonempty, rfl⟩ := HostText.resolve?_alone_iff.1 resolves
    exact .bare (lower_ne_nil_iff.1 nonempty) bare noColon
  | some parts =>
    obtain ⟨host, digits⟩ := parts
    obtain ⟨rfl, last⟩ := cutLast?_eq_some_iff.1 cut
    rw [unbracketedHost_of_last last] at resolves
    obtain ⟨nonempty, port, writes, rfl⟩ := HostText.resolve?_withPort_iff.1 resolves
    have nonempty := lower_ne_nil_iff.1 nonempty
    rw [List.head?_append_of_ne_nil _ nonempty] at bare
    exact .barePort nonempty bare writes

/-- **A host is read exactly if the grammar spells it.** -/
theorem namesHost_iff :
    (∃ parts, HostText.read? unbracketedHost text = some parts ∧
      parts.resolve? fallback = some target) ↔ NamesHost fallback text target := by
  constructor
  · rintro ⟨parts, reads, resolves⟩
    by_cases bare : text.head? = some openBracket
    · obtain ⟨rest, rfl⟩ := List.head?_eq_some_iff.1 bare
      rw [HostText.read?_bracketed] at reads
      exact namesHost_of_bracketed ⟨parts, reads, resolves⟩
    · rw [HostText.read?_of_head _ bare] at reads
      cases reads
      exact namesHost_of_unbracketed bare resolves
  · intro names
    cases names with
    | bare nonempty bare noColon =>
      refine ⟨_, HostText.read?_of_head _ bare, ?_⟩
      rw [unbracketedHost_of_not_mem noColon]
      exact HostText.resolve?_alone_iff.2 ⟨lower_ne_nil_iff.2 nonempty, rfl⟩
    | @barePort host digits port nonempty bare writes =>
      have head : (host ++ colon :: digits).head? = host.head? :=
        List.head?_append_of_ne_nil _ nonempty
      refine ⟨_, HostText.read?_of_head _ (head ▸ bare), ?_⟩
      rw [unbracketedHost_of_last writes.colon_not_mem]
      exact HostText.resolve?_withPort_iff.2 ⟨lower_ne_nil_iff.2 nonempty, port, writes, rfl⟩
    | bracketed nonempty inside =>
      exact HostText.resolve?_ofBracketed?_iff.2 ⟨nonempty, inside, Or.inl ⟨rfl, rfl⟩⟩
    | @bracketedPort host digits port nonempty inside writes =>
      exact HostText.resolve?_ofBracketed?_iff.2
        ⟨nonempty, inside, Or.inr ⟨digits, rfl, writes⟩⟩

/-! ### The user part -/

/-- The texts of a user and a password: the two at a colon, the first one, or the user alone. -/
inductive NamesUser : Bytes → Bytes × Bytes → Prop
  /-- A user. -/
  | alone {text username : Bytes} : colon ∉ text → Percent.Reads text username →
      NamesUser text (username, [])
  /-- A user and a password. -/
  | withPassword {user secret username password : Bytes} : colon ∉ user →
      Percent.Reads user username → Percent.Reads secret password →
      NamesUser (user ++ colon :: secret) (username, password)

/-- The texts of an authority: a host, and perhaps a user part, which ends at the last `@`. -/
inductive NamesAuthority (fallback : UInt16) : Bytes → Bytes × Bytes → HostPort → Prop
  /-- A host. -/
  | host {text : Bytes} {target : HostPort} : atSign ∉ text → NamesHost fallback text target →
      NamesAuthority fallback text ([], []) target
  /-- A user part and a host. -/
  | withUser {user text : Bytes} {pair : Bytes × Bytes} {target : HostPort} : atSign ∉ text →
      NamesUser user pair → NamesHost fallback text target →
      NamesAuthority fallback (user ++ atSign :: text) pair target

/-- An authority without an `@` is a host. -/
theorem NamesAuthority.namesHost (names : NamesAuthority fallback text pair target)
    (noUser : atSign ∉ text) : NamesHost fallback text target := by
  cases names with
  | host _ namesHost => exact namesHost
  | withUser _ _ _ => exact absurd (by simp) noUser

/-- **Every user part is spelled by the grammar**, and stands for what is read. -/
theorem userinfo_eq_iff : userinfo text = pair ↔ NamesUser text pair := by
  constructor
  · rintro rfl
    unfold userinfo
    split
    · next user secret cut =>
      obtain ⟨rfl, first⟩ := cutFirst?_eq_some_iff.1 cut
      exact .withPassword first (Percent.reads_decode user) (Percent.reads_decode secret)
    · next cut => exact .alone (cutFirst?_eq_none_iff.1 cut) (Percent.reads_decode text)
  · intro names
    cases names with
    | alone noColon reads =>
      rw [userinfo, cutFirst?_eq_none_iff.2 noColon]
      exact congrArg (·, []) (Percent.decode_eq_iff.2 reads)
    | withPassword noColon readsUser readsSecret =>
      rw [userinfo, cutFirst?_eq_some_iff.2 ⟨rfl, noColon⟩, ← Percent.decode_eq_iff.2 readsUser,
        ← Percent.decode_eq_iff.2 readsSecret]

theorem splitAuthority_of_not_mem (noUser : atSign ∉ text) :
    splitAuthority text = (([], []), text) := by
  rw [splitAuthority, cutLast?_eq_none_iff.2 noUser]

theorem splitAuthority_of_last {user : Bytes} (last : atSign ∉ text) :
    splitAuthority (user ++ atSign :: text) = (userinfo user, text) := by
  rw [splitAuthority, cutLast?_eq_some_iff.2 ⟨rfl, last⟩]

/-- **An authority is read exactly if the grammar spells it.** -/
theorem namesAuthority_iff :
    (∃ parts, HostText.read? unbracketedHost (splitAuthority text).2 = some parts ∧
      parts.resolve? fallback = some target ∧ (splitAuthority text).1 = pair) ↔
      NamesAuthority fallback text pair target := by
  constructor
  · rintro ⟨parts, reads, resolves, rfl⟩
    cases cut : cutLast? atSign text with
    | none =>
      have noUser := cutLast?_eq_none_iff.1 cut
      rw [splitAuthority_of_not_mem noUser] at reads ⊢
      exact .host noUser (namesHost_iff.1 ⟨parts, reads, resolves⟩)
    | some halves =>
      obtain ⟨user, host⟩ := halves
      obtain ⟨rfl, last⟩ := cutLast?_eq_some_iff.1 cut
      rw [splitAuthority_of_last last] at reads ⊢
      exact .withUser last (userinfo_eq_iff.1 rfl) (namesHost_iff.1 ⟨parts, reads, resolves⟩)
  · intro names
    cases names with
    | host noUser namesHost =>
      obtain ⟨parts, reads, resolves⟩ := namesHost_iff.2 namesHost
      rw [splitAuthority_of_not_mem noUser]
      exact ⟨parts, reads, resolves, rfl⟩
    | withUser last namesUser namesHost =>
      obtain ⟨parts, reads, resolves⟩ := namesHost_iff.2 namesHost
      rw [splitAuthority_of_last last]
      exact ⟨parts, reads, resolves, userinfo_eq_iff.2 namesUser⟩

end Parts

/-! ### The whole text -/

/-- What follows the authority, with the byte that ends it. -/
def afterAuthority (text : Bytes) : Bytes := text.dropWhile fun b => !endsAuthority b

theorem authority_append_afterAuthority (text : Bytes) :
    authority text ++ afterAuthority text = text :=
  List.takeWhile_append_dropWhile

theorem endsAuthority_of_mem_authority {b : UInt8} {text : Bytes} (mem : b ∈ authority text) :
    endsAuthority b = false := by
  unfold authority at mem
  simpa using List.mem_takeWhile_imp mem

theorem endsAuthority_of_head_afterAuthority {b : UInt8} {text : Bytes}
    (head : b ∈ (afterAuthority text).head?) : endsAuthority b = true := by
  unfold afterAuthority at head
  rw [← List.find?_eq_head?_dropWhile_not] at head
  exact List.find?_some head

/-- The text of a URL in its parts: the scheme, the authority, and what follows. -/
structure Spelling where
  /-- What stands before `://`. -/
  scheme : Bytes
  /-- What stands behind it. -/
  authority : Bytes
  /-- What follows the authority, with the byte that ends it. -/
  rest : Bytes
  /-- The first colon of the text is that of `://`. -/
  colon_not_mem : colon ∉ scheme
  /-- The authority is not ended before. -/
  inside : ∀ b ∈ authority, endsAuthority b = false
  /-- The authority is ended there. -/
  outside : ∀ b ∈ rest.head?, endsAuthority b = true

namespace Spelling

/-- The text that is spelled. -/
def text (spelling : Spelling) : Bytes :=
  spelling.scheme ++ ascii "://" ++ (spelling.authority ++ spelling.rest)

/-- The parts stand for the URL. -/
structure Names (spelling : Spelling) (url : Url) : Prop where
  /-- The scheme is shown in small letters. -/
  scheme : lower spelling.scheme = url.scheme
  /-- It is supported, and its port is used if the authority has none. -/
  supported : ∃ fallback, Scheme.Supported url.scheme fallback ∧
    NamesAuthority fallback spelling.authority (url.username, url.password) ⟨url.host, url.port⟩

variable (spelling : Spelling)

theorem cutText?_text :
    cutText? (ascii "://") spelling.text =
      some (spelling.scheme, spelling.authority ++ spelling.rest) :=
  cutText?_of_not_mem spelling.colon_not_mem

theorem authority_append_rest :
    Url.authority (spelling.authority ++ spelling.rest) = spelling.authority := by
  have nothingMore : spelling.rest.takeWhile (fun b => !endsAuthority b) = [] := by
    cases cut : spelling.rest with
    | nil => rfl
    | cons b rest =>
      have ends := spelling.outside b (by rw [cut]; rfl)
      rw [List.takeWhile_cons, ends]
      rfl
  unfold Url.authority
  rw [List.takeWhile_append_of_pos fun b mem => by rw [spelling.inside b mem]; rfl, nothingMore,
    List.append_nil]

variable {spelling} {url : Url}

/-- A text that is given in its parts is accepted if these stand for a URL. -/
theorem parse?_text_iff : parse? spelling.text = some url ↔ spelling.Names url := by
  rw [parse?_eq_some_iff]
  constructor
  · rintro ⟨scheme, rest, fallback, parts, target, cut, supported, reads, resolves, rfl⟩
    rw [cutText?_text, Option.some.injEq, Prod.mk.injEq] at cut
    obtain ⟨rfl, rfl⟩ := cut
    rw [authority_append_rest] at reads ⊢
    exact ⟨rfl, fallback, Scheme.defaultPort?_eq_some_iff.1 supported,
      namesAuthority_iff.1 ⟨parts, reads, resolves, rfl⟩⟩
  · rintro ⟨scheme, fallback, supported, names⟩
    obtain ⟨parts, reads, resolves, users⟩ := namesAuthority_iff.2 names
    refine ⟨_, _, fallback, parts, ⟨url.host, url.port⟩, spelling.cutText?_text, ?_, ?_, resolves,
      ?_⟩
    · rw [scheme]
      exact Scheme.defaultPort?_eq_some_iff.2 supported
    · rw [authority_append_rest]
      exact reads
    · rw [authority_append_rest, users, scheme]

/-- Every text that is accepted can be given in its parts. -/
theorem exists_of_parse? {text : Bytes} (parses : parse? text = some url) :
    ∃ spelling : Spelling, spelling.text = text := by
  obtain ⟨scheme, after, fallback, -, -, cut, supported, -, -, -⟩ := parse?_eq_some_iff.1 parses
  have known := Scheme.defaultPort?_eq_some_iff.1 supported
  let spelling : Spelling :=
    { scheme, authority := Url.authority after, rest := afterAuthority after
      colon_not_mem := known.colon_not_mem
      inside := fun _ mem => endsAuthority_of_mem_authority mem
      outside := fun _ head => endsAuthority_of_head_afterAuthority head }
  refine ⟨spelling, ?_⟩
  rw [(cutText?_eq_some_iff.1 cut).1]
  exact congrArg (scheme ++ ascii "://" ++ ·) (authority_append_afterAuthority after)

end Spelling

/-- **The accepted texts are those that the grammar spells**, and each is accepted as the URL that
its parts stand for. What follows the authority does not count. -/
theorem parse?_follows_grammar :
    (∀ text url, parse? text = some url ↔
      ∃ spelling : Spelling, spelling.text = text ∧ spelling.Names url) ∧
    ∀ spelling other : Spelling, spelling.scheme = other.scheme →
      spelling.authority = other.authority → parse? spelling.text = parse? other.text := by
  constructor
  · intro text url
    constructor
    · intro parses
      obtain ⟨spelling, rfl⟩ := Spelling.exists_of_parse? parses
      exact ⟨spelling, rfl, Spelling.parse?_text_iff.1 parses⟩
    · rintro ⟨spelling, rfl, names⟩
      exact Spelling.parse?_text_iff.2 names
  · intro spelling other sameScheme sameAuthority
    ext url
    rw [Spelling.parse?_text_iff, Spelling.parse?_text_iff]
    constructor
    · rintro ⟨scheme, supported⟩
      exact ⟨sameScheme ▸ scheme, sameAuthority ▸ supported⟩
    · rintro ⟨scheme, supported⟩
      exact ⟨sameScheme ▸ scheme, sameAuthority ▸ supported⟩

/-- A user part with an `@`, an escaped colon and a `%` alone, a host in brackets, and behind the
authority what would be another one. -/
theorem parse?_follows_grammar_to_brackets :
    (∃ spelling : Spelling, spelling.text = ascii "SOCKS5://a%3Ab@c:d%@[::1]:1081/u:p@h:9" ∧
      spelling.Names { scheme := ascii "socks5", host := ascii "::1", port := 1081
                       username := ascii "a:b@c", password := ascii "d%" }) ∧
    parse? (ascii "SOCKS5://a%3Ab@c:d%@[::1]:1081/u:p@h:9") =
      parse? (ascii "SOCKS5://a%3Ab@c:d%@[::1]:1081") :=
  ⟨(parse?_follows_grammar.1 _ _).1 (by decide +kernel),
    parse?_follows_grammar.2
      { scheme := ascii "SOCKS5", authority := ascii "a%3Ab@c:d%@[::1]:1081"
        rest := ascii "/u:p@h:9"
        colon_not_mem := by decide, inside := by decide +kernel, outside := by decide +kernel }
      { scheme := ascii "SOCKS5", authority := ascii "a%3Ab@c:d%@[::1]:1081", rest := []
        colon_not_mem := by decide, inside := by decide +kernel, outside := by decide +kernel }
      rfl rfl⟩

end Url

end ProxyRouting
