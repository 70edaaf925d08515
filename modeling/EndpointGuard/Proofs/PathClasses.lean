import EndpointGuard.Proofs.CallPath

/-!
# Every path has its class

`CallPath.classify` is total and exact. `Reads` is what a path under the configured one says: the
text below it, cut at its first slash. Read `classified_by_parts` first: exactly the paths that are
read so are not outside, the two parts of the text decide between a call and a malformed one, and of
the configured path nothing matters but what stands in front of the slashes at its end.
-/

namespace EndpointGuard.CallPath

/-- A text of so many slashes. -/
def slashes (n : Nat) : String :=
  String.ofList (List.replicate n '/')

/-- The path spells a text below the configured one, which is cut into two parts. -/
structure Reads (configured path rest endpoint method : String) : Prop where
  below : Below configured path rest
  cut : Cut rest endpoint method

/-- The class of a path with regard to the configured one. A path that is neither the configured one
nor below it is outside. Any other is read in one way, and it is a call if its parts are two segments
and malformed if they are not. -/
structure Classified (configured path : String) : Prop where
  outside_iff : classify path configured = .outside ↔
    path ≠ base configured ∧ ∀ rest, path ≠ base configured ++ "/" ++ rest
  exists_reads_iff : (∃ rest endpoint method, Reads configured path rest endpoint method) ↔
    classify path configured ≠ .outside
  reads_unique : ∀ rest endpoint method other first second,
    Reads configured path rest endpoint method → Reads configured path other first second →
      rest = other ∧ endpoint = first ∧ method = second
  class_eq : ∀ rest endpoint method, Reads configured path rest endpoint method →
    classify path configured =
      if endpoint ≠ "" ∧ method ≠ "" ∧ '/' ∉ method.toList then .call endpoint method
      else .malformed endpoint method

variable {configured other path rest endpoint method : String}

/-! ## Slashes at the end of the configured path -/

/-- The configured path is its base with slashes behind it. -/
theorem exists_eq_base_append_slashes (configured : String) :
    ∃ n, configured = base configured ++ slashes n := by
  obtain ⟨n, hbase⟩ := base_append_slashes configured
  refine ⟨n, ?_⟩
  rw [← String.toList_inj, String.toList_append, slashes, String.toList_ofList]
  exact hbase

/-- The base does not end with a slash. -/
theorem base_last_ne (configured : String) : (base configured).toList.getLast? ≠ some '/' := by
  intro hlast
  rw [to_list_base] at hlast
  simpa using Text.drop_end_last hlast

/-- Further slashes at the end do not change the base. -/
@[simp]
theorem base_append (configured : String) (n : Nat) :
    base (configured ++ slashes n) = base configured := by
  rw [base, base, String.toList_append, slashes, String.toList_ofList,
    Text.drop_end_append_of_all]
  intro c hc
  simpa using List.eq_of_mem_replicate hc

/-- Slashes behind slashes are slashes. -/
theorem slashes_add (m n : Nat) : slashes (m + n) = slashes m ++ slashes n := by
  rw [slashes, List.replicate_add, String.ofList_append]
  rfl

/-- Two configured paths have one base exactly when they differ in slashes at their ends only. -/
theorem base_eq_iff :
    base other = base configured ↔ ∃ m n, configured ++ slashes m = other ++ slashes n := by
  constructor
  · intro hsame
    obtain ⟨m, hconfigured⟩ := exists_eq_base_append_slashes configured
    obtain ⟨n, hother⟩ := exists_eq_base_append_slashes other
    refine ⟨n, m, ?_⟩
    calc configured ++ slashes n
        = base configured ++ slashes (m + n) := by
          rw [slashes_add, ← String.append_assoc, ← hconfigured]
      _ = base other ++ slashes (n + m) := by rw [hsame, Nat.add_comm]
      _ = other ++ slashes m := by rw [slashes_add, ← String.append_assoc, ← hother]
  · rintro ⟨m, n, hsame⟩
    rw [← base_append configured m, hsame, base_append]

/-- Of the configured path only the base is looked at. -/
theorem classify_congr (hsame : base other = base configured) (path : String) :
    classify path other = classify path configured := by
  have hchars := congrArg String.toList hsame
  rw [to_list_base, to_list_base] at hchars
  rw [classify, classify, hchars]

/-- Configured paths that classify every path alike have one base. -/
theorem base_eq_of_classify_eq
    (h : ∀ path, classify path other = classify path configured) :
    base other = base configured := by
  have hunder : ∀ path, Under other path ↔ Under configured path := by
    intro path
    rw [← not_iff_not, ← classify_outside_iff, ← classify_outside_iff, h path]
  -- Each base is under itself, and so under the other one, which is then a beginning of it.
  have hother : Under configured (base other) := (hunder (base other)).mp (Or.inl rfl)
  have hconfigured : Under other (base configured) := (hunder (base configured)).mpr (Or.inl rfl)
  have hleft := hconfigured.base_prefix
  have hright := hother.base_prefix
  rw [← String.toList_inj]
  exact hleft.eq_of_length_le hright.length_le

/-! ## Reading a path -/

/-- A path can be read exactly when it is under the configured one. -/
theorem exists_reads_iff_under :
    (∃ rest endpoint method, Reads configured path rest endpoint method) ↔
      Under configured path := by
  rw [under_iff_below]
  constructor
  · rintro ⟨rest, _, _, hreads⟩
    exact ⟨rest, hreads.below⟩
  · rintro ⟨rest, hbelow⟩
    obtain ⟨endpoint, method, hcut, _⟩ := of_rest_cut rest.toList
    rw [String.ofList_toList] at hcut
    exact ⟨rest, endpoint, method, hbelow, hcut⟩

/-- A path is read in one way only. -/
theorem Reads.unique {first second : String} (h : Reads configured path rest endpoint method)
    {left : String} (hother : Reads configured path left first second) :
    rest = left ∧ endpoint = first ∧ method = second := by
  have hrest := h.below.unique hother.below
  subst hrest
  exact ⟨rfl, h.cut.unique hother.cut⟩

/-- The two parts of a path that is read decide on its class. -/
theorem Reads.classify_eq (h : Reads configured path rest endpoint method) :
    classify path configured =
      if endpoint ≠ "" ∧ method ≠ "" ∧ '/' ∉ method.toList then .call endpoint method
      else .malformed endpoint method := by
  rw [classify_eq_iff]
  rcases below_cut_iff.mp ⟨rest, h.below, h.cut⟩ with hcall | hmalformed
  · rw [if_pos ⟨hcall.endpoint_ne, hcall.method_ne, hcall.slash_not_mem_method⟩]
    exact hcall
  · rw [if_neg]
    · exact hmalformed
    · obtain ⟨_, _, _, hparts⟩ := hmalformed
      rintro ⟨hendpoint, hmethod, hslash⟩
      exact hparts.elim hendpoint fun hparts ↦ hparts.elim hmethod hslash

/-- Every path is classified by what it spells. -/
theorem classified (configured path : String) : Classified configured path where
  outside_iff := by
    rw [classify_outside_iff, Under, not_or, not_exists]
  exists_reads_iff := by
    rw [exists_reads_iff_under, ne_eq, classify_outside_iff, not_not]
  reads_unique _ _ _ _ _ _ h hother := h.unique hother
  class_eq _ _ _ h := h.classify_eq

/-- With regard to a configured path, which is its base and slashes behind it, every path has its
class by the parts that it spells. A call has one path: the base, the endpoint and the method, with
slashes between them. Another configured path classifies every path alike exactly if it differs in
slashes at its end only. -/
theorem classified_by_parts (configured : String) :
    (∃ n, configured = base configured ++ slashes n) ∧
    (base configured).toList.getLast? ≠ some '/' ∧
    (∀ path, Classified configured path) ∧
    (∀ path endpoint method, classify path configured = .call endpoint method →
      path = base configured ++ "/" ++ endpoint ++ "/" ++ method ∧
        ∀ other, classify other configured = .call endpoint method ↔ other = path) ∧
    ∀ other, (∀ path, classify path other = classify path configured) ↔
      ∃ m n, configured ++ slashes m = other ++ slashes n := by
  refine ⟨exists_eq_base_append_slashes configured, base_last_ne configured, classified configured,
    ?_, ?_⟩
  · intro path endpoint method hcall
    have hpath := (classify_call_iff.mp hcall).path_eq
    refine ⟨hpath, fun other ↦ ⟨fun hother ↦ ?_, fun hsame ↦ hsame ▸ hcall⟩⟩
    rw [hpath]
    exact (classify_call_iff.mp hother).path_eq
  · intro other
    rw [← base_eq_iff]
    exact ⟨base_eq_of_classify_eq, classify_congr⟩

/-- Under a configured path with two slashes at its end, a path of two segments is read as a call,
and with a slash behind the second segment it is malformed. No other path is the same call, and one
slash or none at the end of the configured path would do as well. -/
theorem rpc_classified :
    Reads "/rpc//" "/rpc/orders/größe" "orders/größe" "orders" "größe" ∧
      classify "/rpc/orders/größe" "/rpc//" = .call "orders" "größe" ∧
      (∀ path, classify path "/rpc//" = .call "orders" "größe" ↔ path = "/rpc/orders/größe") ∧
      Reads "/rpc//" "/rpc/orders/größe/" "orders/größe/" "orders" "größe/" ∧
      classify "/rpc/orders/größe/" "/rpc//" = .malformed "orders" "größe/" ∧
      classify "/rpcs/orders/größe" "/rpc//" = .outside ∧
      (∀ path, classify path "/rpc" = classify path "/rpc//") ∧
      ∀ path, classify path "/rpc/" = classify path "/rpc//" := by
  obtain ⟨_, _, hclassified, hcall, hslashes⟩ := classified_by_parts "/rpc//"
  have hreads : Reads "/rpc//" "/rpc/orders/größe" "orders/größe" "orders" "größe" :=
    ⟨Or.inr rfl, by decide, Or.inr rfl⟩
  have hlonger : Reads "/rpc//" "/rpc/orders/größe/" "orders/größe/" "orders" "größe/" :=
    ⟨Or.inr rfl, by decide, Or.inr rfl⟩
  have hclass := (hclassified _).class_eq _ _ _ hreads
  rw [if_pos (by decide)] at hclass
  refine ⟨hreads, hclass, (hcall _ _ _ hclass).2, hlonger, ?_, rfl, ?_, ?_⟩
  · rw [(hclassified _).class_eq _ _ _ hlonger, if_neg (by decide)]
  · exact (hslashes "/rpc").mpr ⟨0, 2, rfl⟩
  · exact (hslashes "/rpc/").mpr ⟨0, 1, rfl⟩

end EndpointGuard.CallPath
