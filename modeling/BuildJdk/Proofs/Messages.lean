import BuildJdk.Proofs.Decimal
import BuildJdk.Proofs.Standing

/-!
# The messages in the text of a failure

The failure of a validation is written with a line for each message, below two lines that are always the same. So
the messages can be read back from the text, as long as none of them has a line feed of its own.

The message of a rule is made of a label, a home and what is required. Where none of these has a line feed the
message has none, whatever the numbers in it.

Main statement: the text of a failed validation tells the messages of the violated rules, in their order.
-/

namespace BuildJdk

namespace Text

/-! ## Lines -/

/-- A text without a line feed. -/
def IsLine (s : String) : Prop := '\n' ∉ s.toList

instance (s : String) : Decidable (IsLine s) := inferInstanceAs (Decidable (¬ _))

theorem isLine_append {s t : String} : IsLine (s ++ t) ↔ IsLine s ∧ IsLine t := by
  simp [IsLine]

theorem isLine_repr (n : Nat) : IsLine n.repr := not_mem_repr rfl n

/-- The parts of a text between its line feeds. -/
def feedLines (s : String) : List String := (s.toList.splitOn '\n').map String.ofList

/-- Lines that were joined are told apart again. -/
theorem feedLines_intercalate {ls : List String} (hne : ls ≠ []) (hls : ∀ l ∈ ls, IsLine l) :
    feedLines (String.intercalate "\n" ls) = ls := by
  have hfeed : "\n".toList = ['\n'] := rfl
  have hlists : ∀ l ∈ ls.map String.toList, '\n' ∉ l := by
    intro l hl
    obtain ⟨s, hs, rfl⟩ := List.mem_map.mp hl
    exact hls s hs
  unfold feedLines
  rw [String.toList_intercalate, hfeed, List.splitOn_intercalate '\n' hlists (by simpa using hne),
    List.map_map]
  simp [Function.comp_def]

end Text

open Text (IsLine isLine_append isLine_repr feedLines feedLines_intercalate)

/-! ## The text of violated rules -/

/-- What stands in front of a message. -/
def bullet : String := "    - "

/-- The text of a violation has its header, and then one line for each message. -/
theorem feedLines_violationText {messages : List String} (h : ∀ m ∈ messages, IsLine m) :
    feedLines (violationText messages) = violationHeader ++ messages.map (bullet ++ ·) := by
  refine feedLines_intercalate (by simp [violationHeader]) fun l hl => ?_
  rcases List.mem_append.mp hl with hl | hl
  · have hheader : ∀ l ∈ violationHeader, IsLine l := by decide
    exact hheader l hl
  · obtain ⟨m, hm, rfl⟩ := List.mem_map.mp hl
    exact isLine_append.mpr ⟨by decide, h m hm⟩

/-- The messages that a text lists: what its lines after the first two have behind six characters. -/
def listed (text : String) : List String :=
  ((feedLines text).drop 2).map fun l => String.ofList (l.toList.drop 6)

/-- The messages are read back from the text of a violation, if each of them is one line. -/
theorem listed_violationText {messages : List String} (h : ∀ m ∈ messages, IsLine m) :
    listed (violationText messages) = messages := by
  have hbullet : ∀ m : String, String.ofList ((bullet ++ m).toList.drop 6) = m := by
    intro m
    rw [String.toList_append, show (6 : Nat) = bullet.toList.length from rfl, List.drop_left,
      String.ofList_toList]
  have hheader : violationHeader.length = 2 := rfl
  unfold listed
  rw [feedLines_violationText h, ← hheader, List.drop_left, List.map_map]
  simp only [Function.comp_def, hbullet, List.map_id']

/-! ## The messages of the rules -/

namespace Rule

section

variable {q : Requirements} {label : String} {home : Path} (hlabel : IsLine label)
  (hhome : IsLine home.text)

include hlabel hhome

theorem isLine_buildMessage : IsLine (buildMessage q label home) := by
  unfold buildMessage
  simp only [isLine_append, isLine_repr, hlabel, hhome, and_true]
  -- what is left are the words between the values
  decide +kernel

theorem isLine_compilationMessage : IsLine (compilationMessage q label home) := by
  unfold compilationMessage
  simp only [isLine_append, isLine_repr, hlabel, hhome, and_true]
  decide +kernel

variable (hrequired : IsLine q.vendorLabel)

include hrequired

theorem isLine_remoteCacheMessage : IsLine (remoteCacheMessage q label home) := by
  unfold remoteCacheMessage
  simp only [isLine_append, hrequired, hlabel, hhome, and_true]
  decide +kernel

theorem isLine_productionMessage : IsLine (productionMessage q label home) := by
  unfold productionMessage
  simp only [isLine_append, hrequired, hlabel, hhome, and_true]
  decide +kernel

end

/-! ## What the rules say -/

section

variable {σ : Type} {h : Host σ} {q : Requirements}
  {rule : Installation.Question σ (Option Violation)}

theorem home_label (x : σ × Installation) : (Installation.label h x).2.2.home = x.2.home := by
  obtain ⟨s, i⟩ := x
  rcases hl : Installation.label h (s, i) with ⟨answer, s', i'⟩
  rcases Installation.label_cases hl with ⟨_, _, _, _, rfl⟩ | ⟨_, _, _, rfl⟩ | ⟨_, _, _, rfl⟩ <;> rfl

/-- A rule about the version asks for the label only if it is violated. -/
theorem atLeast_eq (major : Nat) (policy : Policy) (message : String → Path → String)
    (x : σ × Installation) : atLeast h major policy message x =
      if x.2.version.isAtLeast major then (.ok none, x)
      else ((Installation.label h x).1.map fun label => some ⟨policy, message label x.2.home⟩,
        (Installation.label h x).2) := by
  unfold atLeast
  rw [Action.run_bind_ok (Action.run_get x)]
  dsimp only
  split
  · rfl
  · rw [Action.run_bind]
    rcases Installation.label h x with ⟨e | label, y⟩ <;> rfl

/-- A rule about the label asks for it in any case. -/
theorem labelled_eq (required : String) (policy : Policy) (message : String → Path → String)
    (x : σ × Installation) : labelled h required policy message x =
      ((Installation.label h x).1.map fun label =>
          if label = required then none else some ⟨policy, message label x.2.home⟩,
        (Installation.label h x).2) := by
  have hhome := home_label (h := h) x
  unfold labelled
  rw [Action.run_bind]
  rcases hlabel : Installation.label h x with ⟨e | label, y⟩
  · rfl
  · rw [hlabel] at hhome
    dsimp only [Except.map]
    split
    · rfl
    · rw [Action.run_bind_ok (Action.run_get y), ← hhome]
      rfl

/-- What a rule says is made of the label and the home, and it does no more than ask for the label. -/
structure Speaks (h : Host σ) (message : String → Path → String)
    (rule : Installation.Question σ (Option Violation)) : Prop where
  message_eq : ∀ x v, (rule x).1 = .ok (some v) →
    ∃ label, (Installation.label h x).1 = .ok label ∧ v.message = message label x.2.home
  state_eq : ∀ x, (rule x).2 = x ∨ (rule x).2 = (Installation.label h x).2

/-- A rule about the version speaks of the label and the home of the installation that it is asked about. -/
theorem speaks_atLeast (major : Nat) (policy : Policy) (message : String → Path → String) :
    Speaks h message (atLeast h major policy message) := by
  constructor
  · intro x v hv
    rw [atLeast_eq] at hv
    split at hv
    · cases hv
    · cases hlabel : (Installation.label h x).1 with
      | error e =>
        rw [hlabel] at hv
        cases hv
      | ok label =>
        rw [hlabel] at hv
        cases hv
        exact ⟨label, rfl, rfl⟩
  · intro x
    rw [atLeast_eq]
    split
    · exact Or.inl rfl
    · exact Or.inr rfl

/-- A rule about the label speaks of that label and the home of the installation. -/
theorem speaks_labelled (required : String) (policy : Policy) (message : String → Path → String) :
    Speaks h message (labelled h required policy message) := by
  constructor
  · intro x v hv
    rw [labelled_eq] at hv
    cases hlabel : (Installation.label h x).1 with
    | error e =>
      rw [hlabel] at hv
      cases hv
    | ok label =>
      rw [hlabel] at hv
      have hsome : (if label = required then none else some ⟨policy, message label x.2.home⟩)
          = some v := Except.ok.inj hv
      split at hsome
      · cases hsome
      · cases hsome
        exact ⟨label, rfl, rfl⟩
  · intro x
    rw [labelled_eq]
    exact Or.inr rfl

/-- The rules that policies are made of. -/
def all (h : Host σ) (q : Requirements) : List (Installation.Question σ (Option Violation)) :=
  [build h q, compilation h q, remoteCache h q, production h q]

/-- Each rule says what is a line if it is made of lines. -/
theorem exists_speaks (hq : IsLine q.vendorLabel) (hrule : rule ∈ all h q) :
    ∃ message, Speaks h message rule ∧
      ∀ label home, IsLine label → IsLine home.text → IsLine (message label home) := by
  simp only [all, List.mem_cons, List.not_mem_nil, or_false] at hrule
  rcases hrule with rfl | rfl | rfl | rfl
  · exact ⟨_, speaks_atLeast _ _ _, fun _ _ => isLine_buildMessage⟩
  · exact ⟨_, speaks_atLeast _ _ _, fun _ _ => isLine_compilationMessage⟩
  · exact ⟨_, speaks_labelled _ _ _, fun _ _ hlabel hhome => isLine_remoteCacheMessage hlabel hhome hq⟩
  · exact ⟨_, speaks_labelled _ _ _, fun _ _ hlabel hhome => isLine_productionMessage hlabel hhome hq⟩

/-- The message of a violation is a line if the label that is told, the home and what is required are. -/
theorem isLine_message (hq : IsLine q.vendorLabel) (hrule : rule ∈ all h q) {x : σ × Installation}
    (hlabel : ∀ label, (Installation.label h x).1 = .ok label → IsLine label)
    (hhome : IsLine x.2.home.text) {v : Violation} (hv : (rule x).1 = .ok (some v)) :
    IsLine v.message := by
  obtain ⟨message, hspeaks, hmessage⟩ := exists_speaks hq hrule
  obtain ⟨label, htold, hv⟩ := hspeaks.message_eq x v hv
  rw [hv]
  exact hmessage label x.2.home (hlabel label htold) hhome

end

end Rule

/-! ## The messages of a check -/

open BuildJdk.Action (Yields)

section

variable {σ α : Type} {h : Host σ}

/-- The home of the installation has no line feed, nor has a label that is known or may still be told. -/
structure Installation.InLines (h : Host σ) (i : Installation) : Prop where
  home : IsLine i.home.text
  known : ∀ label, i.knownLabel = some label → IsLine label
  told : ∀ s p t, h.probe i.home s = (.ok p, t) → IsLine p.label

/-- All that the messages of a check may be made of has no line feed. -/
structure Resolved.InLines (h : Host σ) (r : Resolved) : Prop where
  required : IsLine r.requirements.vendorLabel
  installation : ∀ role, (r.installation role).InLines h

theorem Installation.yields_label :
    Yields (fun x : σ × Installation => x.2.InLines h) (Installation.label h) IsLine := by
  rintro ⟨s, i⟩ hi
  rcases hl : Installation.label h (s, i) with ⟨answer, s', i'⟩
  rcases Installation.label_cases hl with ⟨label, hknown, rfl, rfl, rfl⟩ | ⟨p, hcall, rfl, rfl⟩ |
    ⟨e, hcall, rfl, rfl⟩
  · refine ⟨?_, hi⟩
    rintro _ ⟨⟩
    exact hi.known _ hknown
  · have htold : IsLine p.label := hi.told s p s' hcall
    refine ⟨?_, ⟨hi.home, ?_, hi.told⟩⟩
    · rintro _ ⟨⟩
      exact htold
    · rintro _ ⟨⟩
      exact htold
  · exact ⟨nofun, hi⟩

/-- A rule puts its message in one line, if the label and the home are in one line. -/
theorem Rule.yields_rule {q : Requirements} (hq : IsLine q.vendorLabel)
    {rule : Installation.Question σ (Option Violation)} (hrule : rule ∈ Rule.all h q) :
    Yields (fun x => x.2.InLines h) rule fun said => ∀ v ∈ said, IsLine v.message := by
  intro x hx
  obtain ⟨hlabel, hkept⟩ := Installation.yields_label x hx
  refine ⟨?_, ?_⟩
  · rintro _ hsaid v rfl
    exact isLine_message hq hrule hlabel hx.home hsaid
  · obtain ⟨_, hspeaks, -⟩ := exists_speaks hq hrule
    rcases hspeaks.state_eq x with hstate | hstate
    · rw [hstate]
      exact hx
    · rw [hstate]
      exact hkept

namespace Resolved

variable {K : α → Prop}

/-- What an installation answers, and how it is left, does not depend on the role that it is asked in. -/
theorem yields_ask {q : Installation.Question σ α} (hq : Yields (fun x => x.2.InLines h) q K)
    (role : Role) : Yields (fun x => x.2.InLines h) (ask role q) K := by
  rintro ⟨s, r⟩ hr
  obtain ⟨hanswer, hkept⟩ := hq (s, r.installation role) (hr.installation role)
  rw [ask_run]
  refine ⟨hanswer, ?_, fun other => ?_⟩
  · rw [requirements_withInstallation]
    exact hr.required
  · dsimp only
    rw [installation_withInstallation]
    split
    · exact hkept
    · exact hr.installation other

theorem yields_askRule {rule : Requirements → Installation.Question σ (Option Violation)} {role : Role}
    (hrule : ∀ q, rule q ∈ Rule.all h q) :
    Yields (fun x => x.2.InLines h) (askRule role rule) fun said => ∀ v ∈ said, IsLine v.message :=
  .get fun _ hx => yields_ask (Rule.yields_rule hx.required (hrule _)) role

/-- All messages of a check are in one line each. -/
theorem yields_check (policy : Policy) :
    Yields (fun x => x.2.InLines h) (check h policy) fun vs => ∀ v ∈ vs, IsLine v.message := by
  have hlist : ∀ said : Option Violation, (∀ v ∈ said, IsLine v.message) →
      Yields (fun x => x.2.InLines h) (pure said.toList : Question σ (List Violation))
        fun vs => ∀ v ∈ vs, IsLine v.message :=
    fun said hsaid => .pure fun v hv => hsaid v (Option.mem_toList.mp hv)
  have hremote : Yields (fun x => x.2.InLines h) (askRule .current (Rule.remoteCache h))
      fun said => ∀ v ∈ said, IsLine v.message := yields_askRule fun _ => by simp [Rule.all]
  cases policy with
  | allBuilds => exact (yields_askRule fun _ => by simp [Rule.all]).bind hlist
  | remoteCache => exact hremote.bind hlist
  | production => exact (yields_askRule fun _ => by simp [Rule.all]).bind hlist
  | compilation =>
    -- two rules may speak here, one about the current installation and one about that for compilation
    rw [check_compilation_eq]
    refine .get fun x _ => ?_
    have hcache : Yields (fun x => x.2.InLines h)
        (if x.2.remoteCache then askRule .current (Rule.remoteCache h) else pure none)
        fun said => ∀ v ∈ said, IsLine v.message := by
      split
      · exact hremote
      · exact .pure nofun
    refine hcache.bind fun cache hcache => (yields_askRule fun _ => by simp [Rule.all]).bind
      fun own hown => .pure fun v hv => ?_
    rcases List.mem_append.mp hv with hv | hv
    · exact hcache v (Option.mem_toList.mp hv)
    · exact hown v (Option.mem_toList.mp hv)

/-! ## Failed validations -/

/-- A validation fails with the messages of the check, if there are any. -/
theorem validate_of_check {policy : Policy} {x y : σ × Resolved} {vs : List Violation}
    (hcheck : check h policy x = (.ok vs, y)) : validate h policy x = (judged vs, y) := by
  unfold validate judged
  rw [Action.run_bind_ok hcheck]
  split <;> rfl

end Resolved

end

/-- The text of a failed validation has two lines that are always the same, and then a line for each message,
behind the same six characters. No message of a rule has a line feed if none is in what it is made of. So the
text tells the messages of the violated rules, in the order of the check. -/
theorem text_tells_messages :
    (∀ messages : List String, (∀ m ∈ messages, IsLine m) →
      feedLines (Failure.violated messages).message =
        "JDKs not configured correctly for the build." :: "Problems found:" ::
          messages.map ("    - " ++ ·)) ∧
    (∀ messages messages' : List String, (∀ m ∈ messages, IsLine m) → (∀ m ∈ messages', IsLine m) →
      (Failure.violated messages).message = (Failure.violated messages').message →
      messages = messages') ∧
    (∀ {σ : Type} (h : Host σ) (q : Requirements) (x : σ × Installation), IsLine q.vendorLabel →
      (∀ label, (Installation.label h x).1 = .ok label → IsLine label) → IsLine x.2.home.text →
      ∀ rule ∈ [Rule.build h q, Rule.compilation h q, Rule.remoteCache h q, Rule.production h q],
        ∀ v, (rule x).1 = .ok (some v) → IsLine v.message) ∧
    (∀ {σ : Type} (h : Host σ) (policy : Policy) (x y : σ × Resolved) (vs : List Violation),
      x.2.InLines h → Resolved.check h policy x = (.ok vs, y) →
      (vs = [] → Resolved.validate h policy x = (.ok (), y)) ∧
      (vs ≠ [] → ∃ e, Resolved.validate h policy x = (.error e, y) ∧
        listed e.message = vs.map (·.message))) := by
  refine ⟨fun messages => feedLines_violationText, fun messages messages' h h' heq => ?_,
    fun h q x hq hlabel hhome rule hrule v hv => Rule.isLine_message hq hrule hlabel hhome hv,
    fun h policy x y vs hx hcheck => ?_⟩
  · calc messages = listed (violationText messages) := (listed_violationText h).symm
      _ = listed (violationText messages') := congrArg listed heq
      _ = messages' := listed_violationText h'
  · have hvalidate := Resolved.validate_of_check hcheck
    unfold Resolved.judged at hvalidate
    constructor
    · intro hnil
      rwa [if_pos hnil] at hvalidate
    · intro hne
      rw [if_neg hne] at hvalidate
      have hlines := (Resolved.yields_check policy x hx).1 vs (congrArg Prod.fst hcheck)
      refine ⟨_, hvalidate, listed_violationText fun m hm => ?_⟩
      obtain ⟨v, hv, rfl⟩ := List.mem_map.mp hm
      exact hlines v hv

/-- Messages that look like parts of the text; and an installation that violates two rules at once. -/
theorem text_tells_messages_java8 :
    let p : Probed := { version := ⟨"8", 8, none, none⟩, vendor := "OpenJDK", isJdk := true }
    let h : Host Unit := {
      machine := fun _ =>
        { files := .empty, workingDirectory := [], environment := [], accountHome := none }
      probe := fun _ => return p }
    let i : Installation :=
      { current := true, home := ⟨"/jdk"⟩, version := p.version, knownLabel := none, knownToolsJar := none }
    let r : Resolved := {
      current := i, ownTest := none, ownCompilation := none, requirements := {}, remoteCache := true }
    let messages := ["", "Problems found:", "    - x"]
    (∀ m ∈ messages, IsLine m) ∧ feedLines (Failure.violated messages).message =
      ["JDKs not configured correctly for the build.", "Problems found:", "    - ",
        "    - Problems found:", "    -     - x"] ∧
    (∀ v, ((Rule.remoteCache h {}) ((), i)).1 = .ok (some v) → IsLine v.message) ∧
    ∃ e y, Resolved.validate h .compilation ((), r) = (.error e, y) ∧
      listed e.message = [Rule.remoteCacheMessage {} p.label ⟨"/jdk"⟩,
        Rule.compilationMessage {} p.label ⟨"/jdk"⟩] := by
  intro p h i r messages
  obtain ⟨htext, -, hrules, hvalidate⟩ := text_tells_messages
  have hlines : ∀ m ∈ messages, IsLine m := by decide
  have hi : i.InLines h := by
    refine ⟨by decide, nofun, fun s p' t hcall => ?_⟩
    cases hcall
    decide +kernel
  have hr : r.InLines h := by
    refine ⟨by decide, fun role => ?_⟩
    have hinstallation : r.installation role = i := by cases role <;> rfl
    rw [hinstallation]
    exact hi
  have hcheck : (Resolved.check h .compilation ((), r)).1 = .ok [
      ⟨.remoteCache, Rule.remoteCacheMessage {} p.label ⟨"/jdk"⟩⟩,
      ⟨.compilation, Rule.compilationMessage {} p.label ⟨"/jdk"⟩⟩] := rfl
  refine ⟨hlines, htext messages hlines, fun v hv => ?_, ?_⟩
  · exact hrules h {} ((), i) (by decide) (fun label => (Installation.yields_label _ hi).1 label)
      hi.home _ (by simp) v hv
  · obtain ⟨e, he, hlisted⟩ := (hvalidate h .compilation ((), r) _ _ hr
      (Prod.ext hcheck rfl)).2 (List.cons_ne_nil _ _)
    exact ⟨e, _, he, hlisted⟩

end BuildJdk
