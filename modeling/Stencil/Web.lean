import Stencil.Module.Class
import Stencil.Module.Model
import Stencil.Options

/-!
# Options for web pages
-/

namespace Stencil.Web

/-- The tags of elements with a value. -/
def valueTags : List String := ["input", "textarea", "option", "select", "progress"]

/-- The attributes that stay up to date only when they are set as properties. -/
def mustUseProp (tag : String) (type : Option String) (name : String) : Bool :=
  match name with
  | "value" => valueTags.contains tag && type != some "button"
  | "selected" => tag == "option"
  | "checked" => tag == "input"
  | "muted" => tag == "video"
  | _ => false

/-- The directives that every page has. -/
def directives : DirectiveMap DirectiveHandler :=
  (DirectiveMap.empty.insert "text" DirectiveHandler.text).insert "html" DirectiveHandler.html

/-- The options that other ones are laid over. -/
def baseOptions : Options :=
  Options.withModules { directives, mustUseProp } [Module.classes, Module.model]

end Stencil.Web
