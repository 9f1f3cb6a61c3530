import Botwright.Proofs.SnippetLocals
import Botwright.Reply.Options

/-! The locals of a handler's options. Every option of a command has one, in the order
of the options, under a name that no other option of the command has. -/
namespace Botwright.OptionLocals
open Script Reply BindingAllocation SnippetLocals

theorem bind_options_cons (scope : Scope) (option : CommandOption) (rest : List CommandOption) :
    bindOptions scope (option :: rest) =
      ⟨option.name, scope.choose option.name⟩ ::
        bindOptions (scope.allocate option.name).2 rest := by
  rw [bindOptions]
  rfl

theorem names_bind_options (scope : Scope) (options : List CommandOption) :
    (bindOptions scope options).map (·.name) = options.map (·.name) := by
  induction options generalizing scope with
  | nil => rfl
  | cons option rest ih => rw [bind_options_cons, List.map_cons, List.map_cons, ih]

theorem local_of_bound (bound : option ∈ bindOptions scope options) : Local option.binding := by
  induction options generalizing scope with
  | nil => cases bound
  | cons first rest ih =>
    rw [bind_options_cons] at bound
    rcases List.mem_cons.mp bound with rfl | later
    · exact local_choose scope first.name
    · exact ih later

/-- What is handed out is new in the scope that it is handed out from. -/
theorem fresh_of_bound (bound : option ∈ bindOptions scope options) :
    option.binding ∉ scope.used := by
  induction options generalizing scope with
  | nil => cases bound
  | cons first rest ih =>
    rw [bind_options_cons] at bound
    rcases List.mem_cons.mp bound with rfl | later
    · exact choose_not_used scope first.name
    · exact fun used => ih later (List.mem_cons_of_mem _ used)

theorem nodup_bindings (scope : Scope) (options : List CommandOption) :
    ((bindOptions scope options).map (·.binding)).Nodup := by
  induction options generalizing scope with
  | nil => exact List.nodup_nil
  | cons first rest ih =>
    rw [bind_options_cons, List.map_cons, List.nodup_cons]
    refine ⟨fun member => ?_, ih _⟩
    obtain ⟨option, bound, same⟩ := List.mem_map.mp member
    exact fresh_of_bound bound (same ▸ List.mem_cons_self)

/-- A command's options are those that have a local. -/
theorem names_bound_options (command : Command) :
    (boundOptions command).map (·.name) = command.options.map (·.name) :=
  names_bind_options Scope.empty command.options

end Botwright.OptionLocals
