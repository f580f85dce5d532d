import SidecarInjection.Mode.Proxy
import SidecarInjection.Proofs.Decimal.Numeral
import SidecarInjection.Proofs.Outcome
import SidecarInjection.Proofs.Text.Replacement

/-!
# `SidecarInjection.Proofs.Proxy.Port`: the port of the proxy

A pod may choose the port by an annotation. `Writes` is the grammar of numbers: digits, with or
without a plus sign. `PortOf` says which port an annotation stands for, if any. The text of the
annotation does not get into the listener configuration. What is put there is the numeral of the
port, which is `Canonical`: it has neither a sign nor leading zeros.

* `readUnsigned_eq_some_iff`, `readPort_eq_some_iff`: the texts that are read as numbers and as
  ports.
* `canonical_toString`, `readPort_toString`: the numeral of a port, which is read back as the port.
* `compute_eq_ok_iff`, `compute_eq_error_iff`: what the mode works out, and why it fails.
* `computeTemplate_port_iff`: all of this, for every annotation.
-/

set_option autoImplicit false

namespace SidecarInjection.Proxy

open Outcome

/-! ### Statements -/

/-- A text writes a number: with one or more digits, behind a plus sign or without one. -/
def Writes (s : String) (n : Nat) : Prop :=
  ∃ sign digits : List Char, s.toList = sign ++ digits ∧ (sign = [] ∨ sign = ['+']) ∧
    digits ≠ [] ∧ (∀ c ∈ digits, c.isDigit = true) ∧ Nat.ofDigitChars 10 digits 0 = n

/-- An annotation stands for a port. -/
inductive PortOf : Option String → Nat → Prop
  | absent : PortOf none 8200
  | empty : PortOf (some "") 8200
  | written {s : String} {port : Nat} (h : Writes s port) (hlow : 1 ≤ port)
      (hhigh : port ≤ 65535) : PortOf (some s) port

/-- A text writes a number with digits alone, and without a leading zero. -/
def Canonical (s : String) (n : Nat) : Prop :=
  s.toList ≠ [] ∧ (∀ c ∈ s.toList, c.isDigit = true) ∧ s.toList.head? ≠ some '0' ∧
    Nat.ofDigitChars 10 s.toList 0 = n

/-! ### Reading -/

/-- A number is read from what writes it. -/
theorem readUnsigned_eq_some_iff {s : String} {n : Nat} : readUnsigned s = some n ↔ Writes s n := by
  unfold readUnsigned Writes
  constructor
  · intro h
    split at h
    · rename_i digits hplus
      exact ⟨['+'], digits, hplus, .inr rfl, Decimal.read_eq_some_iff.mp h⟩
    · exact ⟨[], s.toList, rfl, .inl rfl, Decimal.read_eq_some_iff.mp h⟩
  · rintro ⟨sign, digits, hsplit, rfl | rfl, hdigits⟩
    · rw [hsplit, List.nil_append]
      split
      · -- A plus sign is no digit.
        exact absurd (hdigits.2.1 '+' List.mem_cons_self) (by decide)
      · exact Decimal.read_eq_some_iff.mpr hdigits
    · rw [hsplit]
      exact Decimal.read_eq_some_iff.mpr hdigits

/-- A port is a number from 1 to 65535. -/
theorem readPort_eq_some_iff {s : String} {port : Nat} :
    readPort s = some port ↔ Writes s port ∧ 1 ≤ port ∧ port ≤ 65535 := by
  rw [readPort, Option.filter_eq_some_iff, readUnsigned_eq_some_iff]
  refine and_congr_right fun _ => ?_
  simp only [Bool.and_eq_true, decide_eq_true_eq]
  exact Iff.rfl

/-- The default is a port. -/
theorem readPort_default : readPort defaultPort = some 8200 := by decide +kernel

/-- The text that the port is read from: the default where the annotation is absent or empty. -/
def portText (given : Option String) : String :=
  if (given.getD "").isEmpty then defaultPort else given.getD ""

/-- A text that is given is the one that is read. -/
theorem portText_of_ne {s : String} (h : s ≠ "") : portText (some s) = s := by
  have hfilled : ¬ s.isEmpty = true := by simpa using h
  rw [portText, Option.getD_some, if_neg hfilled]

/-- A port is read where the annotation is absent or empty, and then it is the default, or where its
text writes a port. -/
theorem readPort_portText_iff {given : Option String} {port : Nat} :
    readPort (portText given) = some port ↔ PortOf given port := by
  constructor
  · intro h
    cases given with
    | none =>
      obtain rfl := Option.some.inj (readPort_default.symm.trans h)
      exact .absent
    | some s =>
      by_cases hempty : s = ""
      · subst hempty
        obtain rfl := Option.some.inj (readPort_default.symm.trans h)
        exact .empty
      · rw [portText_of_ne hempty] at h
        obtain ⟨hwrites, hlow, hhigh⟩ := readPort_eq_some_iff.mp h
        exact .written hwrites hlow hhigh
  · intro h
    cases h with
    | absent => exact readPort_default
    | empty => exact readPort_default
    | @written s _ hwrites hlow hhigh =>
      -- What writes a number has a digit, so the default does not stand in for it.
      have hfilled : s ≠ "" := by
        rintro rfl
        obtain ⟨sign, digits, hsplit, -, hdigits, -⟩ := hwrites
        exact hdigits (List.append_eq_nil_iff.mp hsplit.symm).2
      rw [portText_of_ne hfilled]
      exact readPort_eq_some_iff.mpr ⟨hwrites, hlow, hhigh⟩

/-! ### The numeral of a port -/

/-- The numeral of the library is the canonical one of a positive number. Zero would begin with a
zero, and is no port. -/
theorem canonical_toString {n : Nat} (h : 0 < n) : Canonical (toString n) n := by
  have hdigits : (toString n).toList = Nat.toDigits 10 n := by
    rw [Nat.toString_eq_repr, Nat.toList_repr]
  rw [Canonical, hdigits]
  refine ⟨?_, fun c hc => Nat.isDigit_of_mem_toDigits (by decide) (by decide) hc,
    Decimal.head?_toDigits_ne_zero h, Nat.ofDigitChars_ten_toDigits⟩
  rw [← Decimal.render_eq_toDigits]
  exact Decimal.render_ne_nil n

/-- A canonical numeral writes its number. -/
theorem Canonical.writes {s : String} {n : Nat} (h : Canonical s n) : Writes s n := by
  obtain ⟨hne, hdigits, -, hvalue⟩ := h
  exact ⟨[], s.toList, rfl, .inl rfl, hne, hdigits, hvalue⟩

/-- A port lies between 1 and 65535, also when it is the default. -/
theorem PortOf.bounds {given : Option String} {port : Nat} (h : PortOf given port) :
    1 ≤ port ∧ port ≤ 65535 := by
  cases h with
  | absent => decide
  | empty => decide
  | written _ hlow hhigh => exact ⟨hlow, hhigh⟩

/-- A port is read back from its numeral. -/
theorem readPort_toString {port : Nat} (hlow : 1 ≤ port) (hhigh : port ≤ 65535) :
    readPort (toString port) = some port :=
  readPort_eq_some_iff.mpr ⟨(canonical_toString hlow).writes, hlow, hhigh⟩

/-! ### What the mode works out -/

/-- Without a port, there is an annotation to blame. -/
theorem exists_of_readPort_eq_none {given : Option String}
    (h : readPort (portText given) = none) :
    ∃ text, given = some text ∧ portText given = text := by
  cases given with
  | none => cases readPort_default.symm.trans h
  | some text =>
    by_cases hempty : text = ""
    · subst hempty
      cases readPort_default.symm.trans h
    · exact ⟨text, rfl, portText_of_ne hempty⟩

/-- The annotation that names the port, if a pod has it. -/
def givenPort (keys : AnnotationKeys) (pod : PodLabels) : Option String :=
  Dict.get? pod.annotations (keys.qualified portKey)

/-- The port that is read settles what is worked out. -/
theorem compute_eq (config : Config) (keys : AnnotationKeys) (pod : PodLabels) :
    compute config keys pod =
      match readPort (portText (givenPort keys pod)) with
      | some port =>
        .ok ⟨port, Text.replaceAll portPlaceholder (Decimal.text port) config.proxyConfig⟩
      | none =>
        .error (.annotationFault (keys.qualified portKey)
          (.invalidPort (portText (givenPort keys pod)))) :=
  rfl

/-- The placeholder of the port is a name in angle brackets. -/
theorem isMark_portPlaceholder : Text.IsMark portPlaceholder :=
  ⟨"VSI_PROXY_PORT".toList, by decide +kernel, by decide +kernel, by decide +kernel⟩

section

variable {config : Config} {keys : AnnotationKeys} {pod : PodLabels}

/-- The configuration has the numeral of the port in every place of the placeholder. -/
theorem compute_eq_ok_iff {c : ProxyConfig} :
    compute config keys pod = .ok c ↔
      PortOf (givenPort keys pod) c.port ∧
        Text.Replaced portPlaceholder (toString c.port) config.proxyConfig c.template := by
  obtain ⟨port, template⟩ := c
  rw [compute_eq, ← readPort_portText_iff, ← Text.replaceAll_eq_iff isMark_portPlaceholder]
  cases hport : readPort (portText (givenPort keys pod)) with
  | none => simp
  | some read =>
    simp only [Except.ok.injEq, ProxyConfig.mk.injEq, Option.some.injEq, Decimal.text_eq_toString]
    refine and_congr_right fun heq => ?_
    rw [heq]

/-- An annotation that stands for no port is at fault. -/
theorem compute_eq_error_iff {e : InjectionError} :
    compute config keys pod = .error e ↔
      (∀ port, ¬ PortOf (givenPort keys pod) port) ∧
        ∃ text, givenPort keys pod = some text ∧
          e = .annotationFault (keys.qualified portKey) (.invalidPort text) := by
  simp only [compute_eq, ← readPort_portText_iff]
  cases hport : readPort (portText (givenPort keys pod)) with
  | none =>
    -- The text in the error is the annotation itself, since the default can be read.
    obtain ⟨text, hgiven, htext⟩ := exists_of_readPort_eq_none hport
    rw [htext]
    constructor
    · intro h
      cases h
      exact ⟨nofun, text, hgiven, rfl⟩
    · rintro ⟨-, other, hother, rfl⟩
      obtain rfl := Option.some.inj (hgiven.symm.trans hother)
      rfl
  | some port =>
    simp only [Option.some.injEq, reduceCtorEq, false_iff, not_and]
    exact fun hnone => absurd rfl (hnone port)

end

/-- The mode succeeds exactly if the annotation is absent or empty, or writes a port. It works out
this port, and the configuration with the numeral of the port in every place of the placeholder.
Otherwise the annotation is at fault. The numeral of the port is its shortest text, and is read
back as the port. -/
theorem computeTemplate_port_iff (config : Config) (keys : AnnotationKeys) (pod : PodLabels) :
    ((∃ result, mode.computeTemplate config keys pod = .ok result) ↔
        ∃ port, PortOf (givenPort keys pod) port) ∧
      (∀ result, mode.computeTemplate config keys pod = .ok result ↔
        ∃ port template, PortOf (givenPort keys pod) port ∧
          Text.Replaced portPlaceholder (toString port) config.proxyConfig template ∧
          result = some (.proxy ⟨port, template⟩)) ∧
      (∀ e, mode.computeTemplate config keys pod = .error e ↔
        (∀ port, ¬ PortOf (givenPort keys pod) port) ∧
          ∃ text, givenPort keys pod = some text ∧
            e = .annotationFault (keys.qualified portKey) (.invalidPort text)) ∧
      ∀ port, PortOf (givenPort keys pod) port →
        Canonical (toString port) port ∧ readPort (toString port) = some port := by
  -- The mode only wraps what is computed, so the acceptance follows from the result.
  have hresult (result : Option ModeConfig) :
      mode.computeTemplate config keys pod = .ok result ↔
        ∃ port template, PortOf (givenPort keys pod) port ∧
          Text.Replaced portPlaceholder (toString port) config.proxyConfig template ∧
          result = some (.proxy ⟨port, template⟩) := by
    constructor
    · intro h
      obtain ⟨c, hc, rfl⟩ := map_eq_ok.mp h
      obtain ⟨hport, htemplate⟩ := compute_eq_ok_iff.mp hc
      exact ⟨c.port, c.template, hport, htemplate, rfl⟩
    · rintro ⟨port, template, hport, htemplate, rfl⟩
      exact map_eq_ok.mpr ⟨⟨port, template⟩, compute_eq_ok_iff.mpr ⟨hport, htemplate⟩, rfl⟩
  refine ⟨⟨?_, ?_⟩, hresult, fun e => ?_, fun port hport => ?_⟩
  · rintro ⟨result, h⟩
    obtain ⟨port, -, hport, -⟩ := (hresult result).mp h
    exact ⟨port, hport⟩
  · rintro ⟨port, hport⟩
    have htemplate :=
      Text.replaced_replaceAll isMark_portPlaceholder (toString port) config.proxyConfig
    exact ⟨_, (hresult _).mpr ⟨port, _, hport, htemplate, rfl⟩⟩
  · rw [← compute_eq_error_iff]
    exact map_eq_error
  · obtain ⟨hlow, hhigh⟩ := hport.bounds
    exact ⟨canonical_toString hlow, readPort_toString hlow hhigh⟩

/-! ### A small pod -/

namespace Sample

/-- A configuration of the proxy. -/
def config : Config where
  annotationQualifier := ""
  appLabel := "app"
  serviceLabel := "service"
  injection := ⟨[], [], []⟩
  proxyConfig := "address=:<VSI_PROXY_PORT>"
  templateBlock := ""
  templateDefault := ""
  lifecycleHooks := ⟨none⟩

/-- Annotations without a qualifier. -/
def keys : AnnotationKeys := ⟨"", []⟩

/-- A pod that writes its port at length. -/
def pod : PodLabels := ⟨[], [("proxy-port", "+08080")]⟩

end Sample

/-- The port of the small pod gets into the configuration without the sign and the zero. -/
theorem computeTemplate_port_sample :
    PortOf (givenPort Sample.keys Sample.pod) 8080 ∧
      mode.computeTemplate Sample.config Sample.keys Sample.pod =
        .ok (some (.proxy ⟨8080, "address=:8080"⟩)) ∧
      Canonical "8080" 8080 ∧ readPort "8080" = some 8080 := by
  have hport : PortOf (givenPort Sample.keys Sample.pod) 8080 := by
    -- A sign and leading zeros are part of the grammar, and the numeral has neither.
    have hdigits : ∀ c ∈ ['0', '8', '0', '8', '0'], c.isDigit = true :=
      List.all_eq_true.mp rfl
    have hwrites : Writes "+08080" 8080 :=
      ⟨['+'], ['0', '8', '0', '8', '0'], rfl, .inr rfl, List.cons_ne_nil _ _, hdigits, rfl⟩
    exact .written hwrites (by decide) (by decide)
  have htemplate : Text.Replaced portPlaceholder "8080" Sample.config.proxyConfig "address=:8080" :=
    (Text.replaceAll_eq_iff isMark_portPlaceholder).mp (by decide +kernel)
  obtain ⟨-, hresult, -, hnumeral⟩ :=
    computeTemplate_port_iff Sample.config Sample.keys Sample.pod
  exact ⟨hport, (hresult _).mpr ⟨8080, _, hport, htemplate, rfl⟩, hnumeral 8080 hport⟩

end SidecarInjection.Proxy
