import AgentOE.Domain.TenantKeys

/-! Which requests share an idempotency key. The pieces behind the tenant hold no colon, so the
key is read from its end. -/
namespace AgentOE.Idempotency.Keys
open Text
open Session (scopedKey)
open TenantKeys (segments segments_injective segments_intercalate segments_of_clean keyShape_clean
  upper_mutating
  mutating_clean pathHash pathHash_clean)

/-- `_KEY_SHAPE.match`, whose `$` also matches before a newline at the end. -/
def matchesKeyShape (clientKey : String) : Bool :=
  keyShape clientKey ||
    (clientKey.toList.getLast? = some '\n' && keyShape (.ofList clientKey.toList.dropLast))

/-- An empty tenant is no tenant. -/
def named (tenantId : Option String) : Option String := tenantId.filter (· ≠ "")

/-- The segments that a tenant puts in front of those of the request. -/
def tenantWords : Option String → List (List Char)
  | none => []
  | some t => "t".toList :: segments t

theorem tenantWords_injective : Function.Injective tenantWords := by
  intro t u same
  match t, u with
  | none, none => rfl
  | none, some u => cases same
  | some t, none => cases same
  | some t, some u => exact congrArg some (segments_injective (List.cons.inj same).2)

section Request
variable {settings : Settings} {hashes : Hashes} {tenantId : Option String}
    {method path clientKey : String}

theorem clientKey_clean (shaped : matchesKeyShape clientKey = true) : ':' ∉ clientKey.toList := by
  rw [matchesKeyShape, Bool.or_eq_true, Bool.and_eq_true, decide_eq_true_eq] at shaped
  rcases shaped with whole | ⟨ends, front⟩
  · exact keyShape_clean whole
  · have clean : ':' ∉ clientKey.toList.dropLast := by simpa using keyShape_clean front
    have nonempty : clientKey.toList ≠ [] := by
      intro empty
      rw [empty] at ends
      cases ends
    have last : clientKey.toList.getLast nonempty = '\n' := by
      rw [List.getLast?_eq_some_getLast nonempty] at ends
      exact Option.some.inj ends
    rw [← List.dropLast_append_getLast nonempty, last, List.mem_append, not_or]
    exact ⟨clean, by decide⟩

/-- The last four segments of a key are those of the request. -/
theorem segments_buildIdemKey (enforced : settings.redisTenantScopedKeys = true)
    (mutating : method ∈ mutatingMethods) (shaped : matchesKeyShape clientKey = true) :
    segments (buildIdemKey settings hashes tenantId method path clientKey) =
      segments settings.redisKeyNamespace ++ tenantWords (named tenantId) ++
        ["idem".toList, method.toList, pathHash hashes path, clientKey.toList] := by
  have kind : segments "idem" = ["idem".toList] := by decide
  have tenant : segments "t" = ["t".toList] := by decide
  have hash : segments (String.ofList (pathHash hashes path)) = [pathHash hashes path] := by
    rw [segments_of_clean, String.toList_ofList]
    simpa using pathHash_clean hashes path
  have pieces : segments (buildIdemKey settings hashes tenantId method path clientKey) =
      segments settings.redisKeyNamespace ++ tenantWords (named tenantId) ++
        ["idem", method, String.ofList (pathHash hashes path), clientKey].flatMap segments := by
    cases tenantId with
    | none =>
      rw [buildIdemKey, scopedKey, segments_intercalate (by simp), upper_mutating mutating]
      simp [named, tenantWords, pathHash]
    | some t =>
      rw [buildIdemKey, scopedKey, segments_intercalate (by simp), upper_mutating mutating]
      by_cases empty : t = ""
      · simp [named, tenantWords, pathHash, empty, Option.filter]
      · simp [named, tenantWords, pathHash, empty, enforced, tenant, Option.filter]
  rw [pieces]
  simp [kind, hash, segments_of_clean (mutating_clean mutating),
    segments_of_clean (clientKey_clean shaped)]

end Request

/-- Two requests share a key only where tenant, method, path hash and client key are the same. -/
theorem buildIdemKey_eq_iff (settings : Settings) (hashes : Hashes)
    (enforced : settings.redisTenantScopedKeys = true) (tenantId tenantId' : Option String)
    (method method' path path' clientKey clientKey' : String) (mutating : method ∈ mutatingMethods)
    (mutating' : method' ∈ mutatingMethods) (shaped : matchesKeyShape clientKey = true)
    (shaped' : matchesKeyShape clientKey' = true) :
    buildIdemKey settings hashes tenantId method path clientKey =
        buildIdemKey settings hashes tenantId' method' path' clientKey' ↔
      named tenantId = named tenantId' ∧ method = method' ∧
        pathHash hashes path = pathHash hashes path' ∧
        clientKey = clientKey' := by
  rw [← segments_injective.eq_iff, segments_buildIdemKey enforced mutating shaped,
    segments_buildIdemKey enforced mutating' shaped']
  constructor
  · intro same
    obtain ⟨front, back⟩ := List.append_inj' same (by simp only [List.length_cons])
    have tenants := tenantWords_injective (List.append_cancel_left front)
    simp only [List.cons.injEq, true_and, and_true, String.toList_inj] at back
    exact ⟨tenants, back⟩
  · rintro ⟨tenants, rfl, hashed, rfl⟩
    rw [tenants, hashed]

/-- The digest of the path below. -/
def pathHashes : Hashes where
  sha1 := fun _ i => [202, 133, 163, 137, 211, 98, 83, 55, 6, 250, 47, 84, 236, 154, 246, 9, 165,
    184, 163, 151].getD i 0
  sha256 := fun _ i => [227, 176, 196, 66, 152, 252, 28, 20, 154, 251, 244, 200, 153, 111, 185, 36,
    39, 174, 65, 228, 100, 155, 147, 76, 164, 149, 153, 27, 120, 82, 184, 85].getD i 0

/-- A tenant whose name goes on as a key without one does. -/
theorem colon_tenant_apart :
    buildIdemKey Settings.default pathHashes (some "acme:idem:POST") "POST" "/p" "abcdefgh" ≠
      buildIdemKey Settings.default pathHashes none "POST" "/p" "abcdefgh" := by
  intro same
  have equal := (buildIdemKey_eq_iff Settings.default pathHashes rfl
    (some "acme:idem:POST") none "POST" "POST" "/p"
    "/p" "abcdefgh" "abcdefgh" (by decide) (by decide) (by decide) (by decide)).mp same
  exact absurd equal.1 (by decide)

end AgentOE.Idempotency.Keys
