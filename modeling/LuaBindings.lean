import LuaBindings.FileTree.Operations
import LuaBindings.Main
import LuaBindings.Proofs.Catalog.Defects
import LuaBindings.Proofs.Catalog.Insertion
import LuaBindings.Proofs.Project.FixupViews
import LuaBindings.Proofs.Project.Leftovers
import LuaBindings.Proofs.Project.OutputModes
import LuaBindings.Proofs.Lua.Tokens
import LuaBindings.Proofs.Binding.Documentation
import LuaBindings.Proofs.Binding.Alteration
import LuaBindings.Proofs.Project.Repeating
import LuaBindings.Proofs.FileTree.Clearing
import LuaBindings.Proofs.Project.Undoing
import LuaBindings.Proofs.CommandLine.Inputs
import LuaBindings.Proofs.CommandLine.Outcomes
import LuaBindings.Proofs.CommandLine.WorkingDirectory
import LuaBindings.Proofs.Catalog.Repeats
import LuaBindings.Proofs.Binding.Arguments
import LuaBindings.Proofs.Project.Nearest
import LuaBindings.Proofs.Binding.TypeConstants
import LuaBindings.Proofs.Project.Alignment
import LuaBindings.Proofs.Project.Starting
import LuaBindings.Proofs.CommandLine.Precedence
