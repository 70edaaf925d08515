import EndpointGuard.Declare.WrittenMarker
import Mathlib.Data.List.Forall2

/-!
# What marker attributes declare

`Declares` says which marker an attribute is by its name and what stands behind it, and
`take_markers_eq_ok_iff` says what taking the markers out of a list of attributes is: every attribute
with the name of a marker declares one, in order, and the others stay, in order.
-/

namespace EndpointGuard.Declare

open Source

/-- The role that an expression names: a string as it stands, or a constant by its path. -/
inductive NamesRole (expression : Expression) : WrittenRole → Prop where
  | text : expression.kind = .stringLiteral → NamesRole expression (.text expression.tokens)
  | constant : expression.kind = .path → NamesRole expression (.constant expression.tokens)

/-- The marker that an attribute declares. Behind the name of the one for roles stands a list of
expressions, each of which names a role; behind the names of the others stands nothing. -/
inductive Declares (attr : Attribute) : WrittenMarker → Prop where
  | denyAll : attr.name? = some "deny_all" → attr.input = .nothing → Declares attr .denyAll
  | anonymousAllowed :
      attr.name? = some "anonymous_allowed" → attr.input = .nothing →
      Declares attr .anonymousAllowed
  | permitAll : attr.name? = some "permit_all" → attr.input = .nothing → Declares attr .permitAll
  | rolesAllowed {delimiter : Delimiter} {tokens : List Token} {expressions : List Expression}
      {roles : List WrittenRole} :
      attr.name? = some "roles_allowed" → attr.input = .arguments delimiter tokens →
      expressionsOf? tokens = some expressions → List.Forall₂ NamesRole expressions roles →
      Declares attr (.rolesAllowed roles)

/-- The attributes of a list that are markers. -/
def markerAttributes (attributes : List Attribute) : List Attribute :=
  attributes.filter isMarker

/-- The attributes of a list that are no markers. -/
def otherAttributes (attributes : List Attribute) : List Attribute :=
  attributes.filter fun attr ↦ !isMarker attr

/-- The markers of a list of attributes: each attribute that is a marker declares one, in order. -/
def AllDeclare (attributes : List Attribute) (markers : List WrittenMarker) : Prop :=
  List.Forall₂ Declares (markerAttributes attributes) markers

/-- A step and what follows it succeed exactly when the step gives a value with which the rest
does. -/
theorem bind_eq_ok_iff {α β : Type} (first : Except Rejection α) (next : α → Except Rejection β)
    (result : β) :
    (first >>= next) = .ok result ↔ ∃ value, first = .ok value ∧ next value = .ok result := by
  cases first <;> simp [bind, Except.bind]

/-- A traversal succeeds exactly when each of its steps does. -/
theorem map_m_eq_ok_iff {α β : Type} (f : α → Except Rejection β) (inputs : List α)
    (results : List β) :
    inputs.mapM f = .ok results ↔
      List.Forall₂ (fun input result ↦ f input = .ok result) inputs results := by
  induction inputs generalizing results with
  | nil => cases results <;> simp [pure, Except.pure]
  | cons input rest ih =>
      simp only [List.mapM_cons, bind_eq_ok_iff, ih, List.forall₂_cons_left_iff]
      constructor
      · rintro ⟨first, hfirst, more, hmore, hresults⟩
        exact ⟨first, more, hfirst, hmore, (Except.ok.inj hresults).symm⟩
      · rintro ⟨first, more, hfirst, hmore, rfl⟩
        exact ⟨first, hfirst, more, hmore, rfl⟩

/-- The role of an expression is the one that it names. -/
theorem role_of_eq_ok_iff (expression : Expression) (role : WrittenRole) :
    roleOf expression = .ok role ↔ NamesRole expression role := by
  constructor
  · intro h
    unfold roleOf at h
    split at h
    · rename_i hkind
      cases h
      exact .text hkind
    · rename_i hkind
      cases h
      exact .constant hkind
    · cases h
  · rintro (hkind | hkind) <;> simp [roleOf, hkind]

/-- The roles of the arguments of an attribute are those that the expressions in it name. -/
theorem roles_of_eq_ok_iff (input : AttributeInput) (roles : List WrittenRole) :
    rolesOf input = .ok roles ↔
      ∃ delimiter tokens expressions, input = .arguments delimiter tokens ∧
        expressionsOf? tokens = some expressions ∧ List.Forall₂ NamesRole expressions roles := by
  unfold rolesOf
  cases input with
  | nothing => simp
  | value tokens => simp
  | arguments delimiter tokens =>
      cases hexpressions : expressionsOf? tokens with
      | none => simp [hexpressions]
      | some expressions => simp [hexpressions, map_m_eq_ok_iff, role_of_eq_ok_iff]

/-- The marker of an attribute with the name of one is the marker that it declares. -/
theorem marker_of_eq_ok_iff {attr : Attribute} (hmarker : isMarker attr = true)
    (marker : WrittenMarker) : markerOf attr = .ok marker ↔ Declares attr marker := by
  constructor
  · intro h
    unfold markerOf at h
    split at h
    · rename_i hname
      cases hroles : rolesOf attr.input with
      | error rejection => simp [hroles, Except.map] at h
      | ok roles =>
          simp only [hroles, Except.map, Except.ok.injEq] at h
          subst h
          obtain ⟨delimiter, tokens, expressions, hinput, hexpressions, hnamed⟩ :=
            (roles_of_eq_ok_iff attr.input roles).mp hroles
          exact .rolesAllowed hname hinput hexpressions hnamed
    · rename_i hroles
      split at h
      · rename_i hinput
        split at h
        · rename_i hname
          cases h
          exact .denyAll hname hinput
        · rename_i hdeny
          split at h
          · rename_i hname
            cases h
            exact .anonymousAllowed hname hinput
          · rename_i hanonymous
            cases h
            -- Of the four names only this one is left.
            refine .permitAll ?_ hinput
            unfold isMarker at hmarker
            cases hname : attr.name? with
            | none => simp [hname] at hmarker
            | some name => simp_all [WrittenMarker.attributeNames]
      · cases h
  · intro h
    cases h with
    | denyAll hname hinput => simp [markerOf, hname, hinput]
    | anonymousAllowed hname hinput => simp [markerOf, hname, hinput]
    | permitAll hname hinput => simp [markerOf, hname, hinput]
    | rolesAllowed hname hinput hexpressions hnamed =>
        have hroles := (roles_of_eq_ok_iff attr.input _).mpr
          ⟨_, _, _, hinput, hexpressions, hnamed⟩
        simp [markerOf, hname, hroles, Except.map]

/-- Taking the markers out of attributes succeeds exactly when every attribute with the name of a
marker declares one; it answers these markers and leaves the other attributes, each in order. -/
theorem take_markers_eq_ok_iff (attributes : List Attribute) (markers : List WrittenMarker)
    (kept : List Attribute) :
    takeMarkers attributes = .ok (markers, kept) ↔
      AllDeclare attributes markers ∧ kept = otherAttributes attributes := by
  induction attributes generalizing markers kept with
  | nil =>
      simp only [takeMarkers, AllDeclare, markerAttributes, otherAttributes, List.filter_nil,
        List.forall₂_nil_left_iff, Except.ok.injEq, Prod.mk.injEq]
      exact and_congr eq_comm eq_comm
  | cons attr rest ih =>
      unfold takeMarkers
      cases hmarker : isMarker attr with
      | true =>
          have hdeclare : AllDeclare (attr :: rest) markers ↔
              ∃ first more, Declares attr first ∧ AllDeclare rest more ∧
                markers = first :: more := by
            simp only [AllDeclare, markerAttributes, List.filter_cons, hmarker, if_true,
              List.forall₂_cons_left_iff]
          have hothers : otherAttributes (attr :: rest) = otherAttributes rest := by
            simp [otherAttributes, hmarker]
          simp only [if_true, hdeclare, hothers, bind_eq_ok_iff, marker_of_eq_ok_iff hmarker,
            Prod.exists, ih]
          constructor
          · rintro ⟨first, hfirst, more, others, ⟨hmore, rfl⟩, hresult⟩
            cases hresult
            exact ⟨⟨first, more, hfirst, hmore, rfl⟩, rfl⟩
          · rintro ⟨⟨first, more, hfirst, hmore, rfl⟩, rfl⟩
            exact ⟨first, hfirst, more, _, ⟨hmore, rfl⟩, rfl⟩
      | false =>
          have hdeclare : AllDeclare (attr :: rest) markers ↔ AllDeclare rest markers := by
            simp only [AllDeclare, markerAttributes, List.filter_cons, hmarker,
              Bool.false_eq_true, if_false]
          have hothers : otherAttributes (attr :: rest) = attr :: otherAttributes rest := by
            simp [otherAttributes, hmarker]
          simp only [Bool.false_eq_true, if_false, hdeclare, hothers, bind_eq_ok_iff, Prod.exists,
            ih]
          constructor
          · rintro ⟨more, others, ⟨hmore, rfl⟩, hresult⟩
            cases hresult
            exact ⟨hmore, rfl⟩
          · rintro ⟨hmore, rfl⟩
            exact ⟨markers, _, ⟨hmore, rfl⟩, rfl⟩

end EndpointGuard.Declare
