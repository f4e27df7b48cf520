import AgentOE.Text
import AgentOE.Idempotency.Middleware

/-! The Redis keys that are built with a tenant, and which tenants can build the same key.
Keys join their pieces with an unescaped colon, so a key is the list of the segments of its
pieces. -/
namespace AgentOE.TenantKeys
open Text
open Session (Config scopedKey)
open Idempotency (Settings Hashes buildIdemKey upper mutatingMethods keyChar keyShape hexdigest
  hexByte)

/-- A calendar day, as `datetime` has it. -/
structure Date where
  year : Nat
  month : Nat
  day : Nat
  deriving DecidableEq, Repr

def twoDigits (n : Nat) : List Char :=
  if n < 10 then '0' :: Nat.toDigits 10 n else Nat.toDigits 10 n

/-- `strftime("%Y%m%d")`. -/
def todayUtc (now : Date) : String :=
  String.ofList (Nat.toDigits 10 now.year ++ twoDigits now.month ++ twoDigits now.day)

def tokensKey (cfg : Config) (now : Date) (tenantId : String) : String :=
  scopedKey cfg "quota:llm:tokens" [todayUtc now] (some tenantId)

def costKey (cfg : Config) (now : Date) (tenantId : String) : String :=
  scopedKey cfg "quota:llm:cost_cents" [todayUtc now] (some tenantId)

/-- What the code builds a tenant's key for. The middleware builds an `idem` key only for a
mutating method and a client key of the required shape. -/
inductive KeyUse where
  | session (sessionId : String)
  | lease (sessionId : String)
  | idem (method path clientKey : String) (mutating : upper method ∈ mutatingMethods)
      (shaped : keyShape clientKey = true)
  | tokens (now : Date)
  | cost (now : Date)

def KeyUse.key (settings : Settings) (hashes : Hashes) (tenantId : String) : KeyUse → String
  | .session sessionId => scopedKey settings.toConfig "session" [sessionId] (some tenantId)
  | .lease sessionId => scopedKey settings.toConfig "lease" [sessionId] (some tenantId)
  | .idem method path clientKey _ _ =>
    buildIdemKey settings hashes (some tenantId) (upper method) path clientKey
  | .tokens now => tokensKey settings.toConfig now tenantId
  | .cost now => costKey settings.toConfig now tenantId

/-- The parts of a text between its colons. -/
def segments (s : String) : List (List Char) := s.toList.splitOn ':'

/-- The kinds whose last part is chosen by the caller. -/
def callerKinds : List String := ["session", "lease"]

/-- The second tenant id goes on after the first one with the name of such a kind. -/
def Extends (t u : String) : Prop :=
  ∃ kind ∈ callerKinds, segments t ++ [kind.toList] <+: segments u

instance (t u : String) : Decidable (Extends t u) :=
  inferInstanceAs (Decidable (∃ kind ∈ callerKinds, segments t ++ [kind.toList] <+: segments u))

theorem segments_injective : Function.Injective segments := fun _ _ same =>
  String.toList_injective (splitOn_injective same)

theorem segments_intercalate {pieces : List String} (nonempty : pieces ≠ []) :
    segments (":".intercalate pieces) = pieces.flatMap segments := by
  have texts : pieces.map String.toList ≠ [] := by simpa using nonempty
  rw [segments, String.toList_intercalate]
  exact (splitOn_intercalate_flatMap texts).trans (List.flatMap_map ..)

theorem segments_of_clean {s : String} (clean : ':' ∉ s.toList) : segments s = [s.toList] :=
  List.splitOn_eq_singleton clean

/-! The pieces whose text is not the caller's hold no colon. -/

theorem toDigits_clean (n : Nat) : ':' ∉ Nat.toDigits 10 n := by
  intro inside
  have digit := Nat.isDigit_of_mem_toDigits (by decide) (by decide) inside
  exact absurd digit (by decide)

theorem todayUtc_clean (now : Date) : ':' ∉ (todayUtc now).toList := by
  have two (n : Nat) : ':' ∉ twoDigits n := by
    unfold twoDigits
    split
    · exact List.not_mem_cons_of_ne_of_not_mem (by decide) (toDigits_clean n)
    · exact toDigits_clean n
  simp [todayUtc, toDigits_clean, two]

theorem digitChar_clean {n : Nat} (small : n < 16) : Nat.digitChar n ≠ ':' := by
  have all : ∀ n < 16, Nat.digitChar n ≠ ':' := by decide
  exact all n small

theorem hexdigest_clean (digest : Fin n → UInt8) : ':' ∉ (hexdigest digest).toList := by
  simp only [hexdigest, String.toList_ofList, List.mem_flatMap, not_exists, not_and]
  intro b _ inside
  have byte : b.toNat < 256 := b.toNat_lt
  simp only [hexByte, List.mem_cons, List.not_mem_nil, or_false] at inside
  rcases inside with high | low
  · exact digitChar_clean (by omega) high.symm
  · exact digitChar_clean (by omega) low.symm

theorem keyShape_clean {clientKey : String} (shaped : keyShape clientKey = true) :
    ':' ∉ clientKey.toList := by
  simp only [keyShape, Bool.and_eq_true, List.all_eq_true] at shaped
  intro inside
  exact absurd (shaped.2 _ inside) (by decide)

theorem upper_mutating {method : String} (mutating : method ∈ mutatingMethods) :
    upper method = method := by
  have all : ∀ method ∈ mutatingMethods, upper method = method := by decide
  exact all method mutating

theorem mutating_clean {method : String} (mutating : method ∈ mutatingMethods) :
    ':' ∉ method.toList := by
  have all : ∀ method ∈ mutatingMethods, ':' ∉ method.toList := by decide
  exact all method mutating

def pathHash (hashes : Hashes) (path : String) : List Char :=
  (hexdigest (hashes.sha1 (Idempotency.utf8 path))).toList.take 16

theorem pathHash_clean (hashes : Hashes) (path : String) : ':' ∉ pathHash hashes path :=
  fun inside => hexdigest_clean _ (List.mem_of_mem_take inside)

/-- The segments of a key after those of the tenant. -/
def KeyUse.words (hashes : Hashes) : KeyUse → List (List Char)
  | .session sessionId => "session".toList :: segments sessionId
  | .lease sessionId => "lease".toList :: segments sessionId
  | .idem method path clientKey _ _ =>
    ["idem".toList, (upper method).toList, pathHash hashes path, clientKey.toList]
  | .tokens now => ["quota".toList, "llm".toList, "tokens".toList, (todayUtc now).toList]
  | .cost now => ["quota".toList, "llm".toList, "cost_cents".toList, (todayUtc now).toList]

theorem segments_scopedKey {cfg : Config} {t : String} (enforced : cfg.redisTenantScopedKeys = true)
    (named : t ≠ "") (kind : String) (parts : List String) :
    segments (scopedKey cfg kind parts (some t)) =
      segments cfg.redisKeyNamespace ++ "t".toList ::
        (segments t ++ (kind :: parts).flatMap segments) := by
  have tenant : segments "t" = ["t".toList] := by decide
  rw [scopedKey, segments_intercalate (by simp)]
  simp [named, enforced, tenant]

theorem segments_key {settings : Settings} {t : String}
    (enforced : settings.redisTenantScopedKeys = true) (named : t ≠ "") (hashes : Hashes)
    (use : KeyUse) : segments (use.key settings hashes t) =
      segments settings.redisKeyNamespace ++ "t".toList :: (segments t ++ use.words hashes) := by
  cases use with
  | session sessionId =>
    have word : segments "session" = ["session".toList] := by decide
    simp [KeyUse.key, segments_scopedKey enforced named, KeyUse.words, word]
  | lease sessionId =>
    have word : segments "lease" = ["lease".toList] := by decide
    simp [KeyUse.key, segments_scopedKey enforced named, KeyUse.words, word]
  | idem method path clientKey mutating shaped =>
    have word : segments "idem" = ["idem".toList] := by decide
    have hash : segments (String.ofList (pathHash hashes path)) = [pathHash hashes path] := by
      rw [segments_of_clean, String.toList_ofList]
      simpa using pathHash_clean hashes path
    simp only [pathHash] at hash
    simp [KeyUse.key, buildIdemKey, segments_scopedKey enforced named, KeyUse.words, word,
      upper_mutating mutating, segments_of_clean (mutating_clean mutating),
      segments_of_clean (keyShape_clean shaped), hash, pathHash]
  | tokens now =>
    have word : segments "quota:llm:tokens" =
      ["quota".toList, "llm".toList, "tokens".toList] := by decide
    simp [KeyUse.key, tokensKey, segments_scopedKey enforced named, KeyUse.words, word,
      segments_of_clean (todayUtc_clean now)]
  | cost now =>
    have word : segments "quota:llm:cost_cents" =
      ["quota".toList, "llm".toList, "cost_cents".toList] := by decide
    simp [KeyUse.key, costKey, segments_scopedKey enforced named, KeyUse.words, word,
      segments_of_clean (todayUtc_clean now)]

/-- Two tenants build one key just when the segments agree after the namespace. -/
theorem key_eq_iff {settings : Settings} {t u : String}
    (enforced : settings.redisTenantScopedKeys = true) (tNamed : t ≠ "") (uNamed : u ≠ "")
    (hashes : Hashes) (left right : KeyUse) :
    left.key settings hashes t = right.key settings hashes u ↔
      segments t ++ left.words hashes = segments u ++ right.words hashes := by
  rw [← segments_injective.eq_iff, segments_key enforced tNamed, segments_key enforced uNamed]
  simp only [List.append_cancel_left_eq, List.cons.injEq, true_and]

/-- The first segments of the keys' kinds. -/
def kindWords : List (List Char) :=
  ["session".toList, "lease".toList, "idem".toList, "quota".toList]

theorem words_first (hashes : Hashes) (use : KeyUse) :
    ∃ first rest, use.words hashes = first :: rest ∧ rest ≠ [] ∧ first ∈ kindWords := by
  have some_segment (s : String) : segments s ≠ [] := List.splitOn_ne_nil ':' s.toList
  cases use with
  | session sessionId => exact ⟨_, _, rfl, some_segment sessionId, by simp [kindWords]⟩
  | lease sessionId => exact ⟨_, _, rfl, some_segment sessionId, by simp [kindWords]⟩
  | idem | tokens | cost => exact ⟨_, _, rfl, List.cons_ne_nil _ _, by simp [kindWords]⟩

theorem pathHash_length (hashes : Hashes) (path : String) : (pathHash hashes path).length = 16 := by
  simp [pathHash, hexdigest, hexByte]

theorem mutating_not_kind {method : String} (mutating : method ∈ mutatingMethods) :
    method.toList ∉ kindWords := by
  have all : ∀ method ∈ mutatingMethods, method.toList ∉ kindWords := by decide
  exact all method mutating

theorem pathHash_not_kind (hashes : Hashes) (path : String) : pathHash hashes path ∉ kindWords := by
  have short : ∀ word ∈ kindWords, word.length ≠ 16 := by decide
  exact fun isKind => short _ isKind (pathHash_length hashes path)

theorem inner_of_suffix {a b c d word first : List Char} {others rest : List (List Char)}
    (same : [a, b, c, d] = word :: others ++ first :: rest) (more : rest ≠ []) :
    first = b ∨ first = c := by
  match others with
  | [] => exact .inl (List.cons.inj (List.cons.inj same).2).1.symm
  | [_] => exact .inr (List.cons.inj (List.cons.inj (List.cons.inj same).2).2).1.symm
  | _ :: _ :: _ =>
    have count := congrArg List.length same
    have longer := List.length_pos_of_ne_nil more
    simp only [List.length_append, List.length_cons, List.length_nil] at count
    omega

/-- One key's segments end with those of another only behind a part that the caller chose. -/
theorem words_suffix {hashes : Hashes} {left right : KeyUse} {extra : List (List Char)}
    (suffix : left.words hashes = extra ++ right.words hashes) (nonempty : extra ≠ []) :
    ∃ kind ∈ callerKinds, [kind.toList] <+: extra := by
  obtain ⟨word, others, rfl⟩ := List.exists_cons_of_ne_nil nonempty
  obtain ⟨first, rest, same, more, isKind⟩ := words_first hashes right
  rw [same] at suffix
  cases left with
  | session sessionId =>
    obtain ⟨rfl, _⟩ := List.cons.inj suffix
    exact ⟨"session", by simp [callerKinds], others, rfl⟩
  | lease sessionId =>
    obtain ⟨rfl, _⟩ := List.cons.inj suffix
    exact ⟨"lease", by simp [callerKinds], others, rfl⟩
  | idem method path clientKey mutating shaped =>
    exfalso
    rcases inner_of_suffix suffix more with rfl | rfl
    · exact mutating_not_kind mutating isKind
    · exact pathHash_not_kind hashes path isKind
  | tokens now =>
    exfalso
    rcases inner_of_suffix suffix more with rfl | rfl <;> exact absurd isKind (by decide)
  | cost now =>
    exfalso
    rcases inner_of_suffix suffix more with rfl | rfl <;> exact absurd isKind (by decide)

theorem clean_of_mem_segments {s : String} {word : List Char} (mem : word ∈ segments s) :
    ':' ∉ word := by
  intro inside
  rw [segments, List.splitOn_eq_splitOnP] at mem
  simpa using not_of_mem_splitOnP mem ':' inside

/-- Any list of parts without colons is what some text is made of. -/
theorem exists_segments {words : List (List Char)} (nonempty : words ≠ [])
    (clean : ∀ word ∈ words, ':' ∉ word) :
    ∃ s, segments s = words := by
  refine ⟨String.ofList ([':'].intercalate words), ?_⟩
  rw [segments, String.toList_ofList]
  exact (splitOn_intercalate_iff nonempty).mpr clean

/-- A caller of a tenant whose id goes on with the name of a kind is met by the other tenant. -/
theorem exists_same_words {t u : String} (extends_ : Extends t u) (hashes : Hashes) :
    ∃ left right : KeyUse, segments t ++ left.words hashes = segments u ++ right.words hashes := by
  obtain ⟨kind, known, rest, goesOn⟩ := extends_
  have inside : ∀ word ∈ rest, word ∈ segments u := fun word mem =>
    goesOn ▸ List.mem_append_right _ mem
  have clean : ∀ word ∈ rest ++ (KeyUse.session "x").words hashes, ':' ∉ word := by
    intro word mem
    rcases List.mem_append.mp mem with mem | mem
    · exact clean_of_mem_segments (inside word mem)
    · have all : ∀ word ∈ "session".toList :: segments "x", ':' ∉ word := by decide
      exact all word mem
  obtain ⟨sessionId, parts⟩ := exists_segments (by simp [KeyUse.words]) clean
  have chosen : ∃ left : KeyUse, left.words hashes = kind.toList :: segments sessionId := by
    simp only [callerKinds, List.mem_cons, List.not_mem_nil, or_false] at known
    rcases known with rfl | rfl
    · exact ⟨.session sessionId, rfl⟩
    · exact ⟨.lease sessionId, rfl⟩
  obtain ⟨left, same⟩ := chosen
  refine ⟨left, .session "x", ?_⟩
  rw [same, parts, ← goesOn]
  simp only [List.append_assoc, List.cons_append, List.nil_append]

/-- The keys of two tenants are kept apart just when neither id goes on after the other one
with a kind whose parts the caller chooses. -/
theorem keys_isolated_iff {settings : Settings} {t u : String}
    (enforced : settings.redisTenantScopedKeys = true) (tNamed : t ≠ "") (uNamed : u ≠ "")
    (distinct : t ≠ u) (hashes : Hashes) :
    (∀ left right : KeyUse, left.key settings hashes t ≠ right.key settings hashes u) ↔
      ¬Extends t u ∧ ¬Extends u t := by
  simp only [ne_eq, key_eq_iff enforced tNamed uNamed]
  constructor
  · intro isolated
    constructor
    · intro longer
      obtain ⟨left, right, same⟩ := exists_same_words longer hashes
      exact isolated left right same
    · intro longer
      obtain ⟨right, left, same⟩ := exists_same_words longer hashes
      exact isolated left right same.symm
  · rintro ⟨notLeft, notRight⟩ left right same
    have differ : segments t ≠ segments u := fun same => distinct (segments_injective same)
    rcases List.append_eq_append_iff.mp same with ⟨extra, whole, suffix⟩ | ⟨extra, whole, suffix⟩
    · have nonempty : extra ≠ [] := by
        rintro rfl
        exact differ (by simpa using whole.symm)
      obtain ⟨kind, known, leads⟩ := words_suffix suffix nonempty
      exact notLeft ⟨kind, known, whole ▸ (List.prefix_append_right_inj _).mpr leads⟩
    · have nonempty : extra ≠ [] := by
        rintro rfl
        exact differ (by simpa using whole)
      obtain ⟨kind, known, leads⟩ := words_suffix suffix nonempty
      exact notRight ⟨kind, known, whole ▸ (List.prefix_append_right_inj _).mpr leads⟩

theorem plain_ids_isolated : ¬∃ (hashes : Hashes) (left right : KeyUse),
    left.key Settings.default hashes "acme" = right.key Settings.default hashes "globex" := by
  rintro ⟨hashes, left, right, same⟩
  have enforced : Settings.default.redisTenantScopedKeys = true := rfl
  have isolated := (keys_isolated_iff (t := "acme") (u := "globex") enforced (by decide) (by decide)
    (by decide)
    hashes).mpr (by decide)
  exact isolated left right same

/-- Tenant `a` reads and writes the state that tenant `a:session` has under `b`. -/
theorem session_key_shared : ¬∀ (settings : Settings) (hashes : Hashes) (t u : String),
    settings.redisTenantScopedKeys = true → t ≠ "" → u ≠ "" → t ≠ u →
    ∀ left right : KeyUse, left.key settings hashes t ≠ right.key settings hashes u := by
  intro isolated
  exact isolated Settings.default ⟨fun _ _ => 0, fun _ _ => 0⟩ "a" "a:session" rfl (by decide)
    (by decide) (by decide)
    (.session "session:b") (.session "b") (by decide)

end AgentOE.TenantKeys
