/-
# What is written about a member

A member may come with a text for its readers, and with a signature: what it is called with,
where the item that it is for goes by the name of `self`.
-/

namespace Criteria
namespace Template

structure MemberDoc where
  name : String
  signature : Option String
  text : Option String

namespace MemberDoc

/-- What is written about a member that is called with the item alone. -/
def ofSelf (name text : String) : MemberDoc := ⟨name, some "($self, /)", some text⟩

/-- What is written about a member that is called with the item and one other. -/
def ofSelfAnd (name text : String) : MemberDoc := ⟨name, some "($self, value, /)", some text⟩

end MemberDoc
end Template
end Criteria
