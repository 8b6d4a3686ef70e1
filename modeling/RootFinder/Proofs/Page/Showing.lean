import RootFinder.Page

/-! What the parts of a page show. A part adds elements to those already there, and goes on or ends
the page; a page is the sequence of what its parts show. -/
namespace RootFinder.Page

/-- The part adds these elements, whatever is there before, and ends like this. -/
def Shows {α : Type} (part : Part α) (elements : List Element) (ending : Except Ending α) : Prop :=
  ∀ before, part.run before = (ending, before ++ elements)

namespace Shows

variable {α β : Type} {part : Part α} {next : α → Part β} {shown after : List Element}
  {ending : Except Ending β}

protected theorem pure (a : α) : Shows (pure a) [] (.ok a) := by
  intro before
  rw [List.append_nil]
  rfl

protected theorem put (element : Element) : Shows (put element) [element] (.ok ()) := by
  intro before
  rfl

protected theorem stop : Shows stop [.stop] (.error .stopped) := by
  intro before
  rfl

protected theorem check (a : α) : Shows (check (.ok a)) [] (.ok a) := Shows.pure a

protected theorem bind {a : α} (first : Shows part shown (.ok a))
    (rest : Shows (next a) after ending) : Shows (part >>= next) (shown ++ after) ending := by
  intro before
  have step : (part >>= next).run before =
      ExceptT.bindCont next (part.run before).1 (part.run before).2 := rfl
  rw [step, first before]
  change (next a).run (before ++ shown) = _
  rw [rest, List.append_assoc]

/-- Nothing is shown after a part that ends the page. -/
protected theorem ended {e : Ending} (first : Shows part shown (.error e)) :
    Shows (part >>= next) shown (.error e) := by
  intro before
  have step : (part >>= next).run before =
      ExceptT.bindCont next (part.run before).1 (part.run before).2 := rfl
  rw [step, first before]
  rfl

/-- An element, and what follows it. -/
theorem put_bind {element : Element} {next : Unit → Part β} (rest : Shows (next ()) after ending) :
    Shows (put element >>= next) (element :: after) ending :=
  Shows.bind (.put element) rest

/-- A part of a reply that has the expected form, and what follows. -/
theorem check_bind {x : Except Fault α} {a : α} (ok : x = .ok a)
    (rest : Shows (next a) after ending) : Shows (check x >>= next) after ending := by
  subst ok
  exact Shows.bind (.check a) rest

end Shows

end RootFinder.Page
