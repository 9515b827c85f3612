import SubstrateDevTemplate.Extrinsics.Units

/-!
# Extrinsics — lists

The array widget asks for an array, comma separated.  Nothing separates it: `formatParameter` looks
for words in the type of a parameter, as the widget does, but `vec` is not among them.

* `list_text`: the call is passed the text of the widget, whole, where it is asked for as a list.
* `list_not_sent`: whatever the type is and whatever is entered, the call is passed no array.
* `widget_vec`: the widgets of the `Vec` types.  An element type with a word of an earlier branch
  takes its list there, so that the array widget is not all that they get.
-/

namespace SubstrateDevTemplate.Extrinsics
open ParamInput (Param Widget widget)

/-- `items.join(',')`. -/
def joined (items : List String) : String := String.intercalate "," items

/-- At least one item, each nonempty and without a comma. -/
structure ListItems (items : List String) : Prop where
  some_ : items ≠ []
  nonempty : ∀ item ∈ items, item ≠ ""
  commaFree : ∀ item ∈ items, ',' ∉ item.toList

/-- The submission passes `items` to its call, as its `i`-th argument. -/
def Submission.SendsList (s : Submission) (i : Nat) (items : List String) : Prop :=
  s.processedParams[i]? = some (.array items)

instance (s : Submission) (i : Nat) (items : List String) : Decidable (s.SendsList i items) :=
  inferInstanceAs (Decidable (_ = _))

/-- A type that starts with `Vec<` contains `vec`, however it ends. -/
theorem includes_vec (T : String) :
    Js.includes (Js.toLowerCase ("Vec<" ++ T ++ ">")) "vec" = true := by
  have hstart : Js.toLowerCase "Vec<" = "vec" ++ "<" := by decide
  rw [Js.toLowerCase_append, Js.toLowerCase_append, hstart, String.append_assoc,
    String.append_assoc]
  exact Js.includes_append "vec" _

/-- No list falls through to the last two widgets. -/
theorem widget_vec (module name T : String) :
    widget module name ("Vec<" ++ T ++ ">") ∈
      [Widget.bool, .account, .balance, .number, .string, .array] := by
  simp only [widget, includes_vec, Bool.true_or, if_true]
  split
  · decide
  · split
    · decide
    · split
      · decide
      · split
        · decide
        · split <;> decide

variable {p : Page} {i : Nat} {param : Param} {s : Submission}

/-- What stands in the array widget is passed on as one text. -/
theorem list_text {text : String} (hparam : p.methodParameters[i]? = some param)
    (hwidget : widget p.selectedModule param.name param.type = .array)
    (hvalue : Js.item p.paramValues i = some text)
    (hs : p.handleSubmit.submissions[p.submissions.length]? = some s) :
    s.processedParams[i]? = some (.string text) := by
  obtain ⟨hparams, hvalues⟩ := handleSubmit_captures hs
  have hbool : widget p.selectedModule param.name param.type ≠ .bool := by rw [hwidget]; decide
  exact processedParams_text (hparams ▸ hparam) hbool (hvalues ▸ hvalue)

/-- **No list is sent**, of any element type, whatever its items are. -/
theorem list_not_sent {items : List String} (hparam : p.methodParameters[i]? = some param)
    (hvalue : Js.item p.paramValues i = some (joined items))
    (hs : p.handleSubmit.submissions[p.submissions.length]? = some s) :
    ¬ (widget p.selectedModule param.name param.type = .array ∧ s.SendsList i items) := by
  rintro ⟨hwidget, hsends⟩
  have htext := list_text hparam hwidget hvalue hs
  rw [Submission.SendsList, htext, Option.some.injEq] at hsends
  cases hsends

/-- The form of `system.killStorage`, filled in. -/
def killStorageForm (keys : String) : Page :=
  { Page.init with
    selectedModule := "system"
    selectedMethod := "killStorage"
    methodParameters := [⟨"keys", "Vec<Key>", false⟩]
    paramValues := [some keys]
    accounts := [⟨"5Alice", "polkadot-js"⟩]
    selectedAccount := "5Alice" }

/-- What it submits. -/
def killStorageSubmission (keys : String) : Submission where
  selectedModule := "system"
  selectedMethod := "killStorage"
  methodParameters := [⟨"keys", "Vec<Key>", false⟩]
  paramValues := [some keys]
  selectedAccount := "5Alice"
  txEvents := none
  stage := .injecting "polkadot-js"

theorem killStorage_submits (keys : String) :
    (killStorageForm keys).handleSubmit.submissions[0]? = some (killStorageSubmission keys) := rfl

/-- Two keys, asked for as a list. -/
theorem two_keys_not_sent :
    widget "system" "keys" "Vec<Key>" = .array ∧
      ¬ (killStorageSubmission (joined ["0x01", "0x02"])).SendsList 0 ["0x01", "0x02"] := by
  have hwidget : widget "system" "keys" "Vec<Key>" = .array := by decide
  have hparam : (killStorageForm (joined ["0x01", "0x02"])).methodParameters[0]? =
    some ⟨"keys", "Vec<Key>", false⟩ := rfl
  have hs := killStorage_submits (joined ["0x01", "0x02"])
  exact ⟨hwidget, fun hsends => list_not_sent hparam rfl hs ⟨hwidget, hsends⟩⟩

/-- Their text is sent, and no list. -/
theorem lists_lost :
    ¬ ∀ (T : String) (p : Page) (i : Nat) (param : Param) (items : List String) (s : Submission),
      p.methodParameters[i]? = some param → param.type = "Vec<" ++ T ++ ">" → ListItems items →
      Js.item p.paramValues i = some (joined items) →
      p.handleSubmit.submissions[p.submissions.length]? = some s →
      widget p.selectedModule param.name param.type = .array ∧ s.SendsList i items := by
  intro h
  have hitems : ListItems ["0x01", "0x02"] := ⟨by decide, by decide, by decide⟩
  obtain ⟨-, hsends⟩ := h "Key" (killStorageForm (joined ["0x01", "0x02"])) 0
    ⟨"keys", "Vec<Key>", false⟩ ["0x01", "0x02"] (killStorageSubmission (joined ["0x01", "0x02"]))
    rfl (by decide) hitems rfl (killStorage_submits _)
  revert hsends
  decide

end SubstrateDevTemplate.Extrinsics
