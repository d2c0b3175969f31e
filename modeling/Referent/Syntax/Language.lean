import Referent.Descriptor.ScopeType
import Referent.Syntax.Matcher

namespace Referent

inductive FragmentKind where
  | delimited
  | whole
deriving Repr, DecidableEq

structure Language where
  matcher? : SyntacticScope → Option Matcher
  fragments : List (String × FragmentKind)

namespace Language

def patterns (texts : List String) : Matcher := .patterns (texts.map Pattern.ofText)

def condition (texts : List String) : Matcher := .condition (texts.map Pattern.ofText)

def genericFragments : List (String × FragmentKind) :=
  [("string", .delimited), ("comment", .whole)]

def javascriptFragments : List (String × FragmentKind) :=
  [("string", .delimited), ("template_string", .delimited), ("comment", .whole),
    ("regex", .delimited)]

def javascriptStatements : List String :=
  ["abstract_class_declaration", "ambient_declaration", "break_statement", "class_declaration",
    "continue_statement", "debugger_statement", "declaration", "do_statement", "empty_statement",
    "enum_declaration", "expression_statement", "for_in_statement", "for_statement",
    "function_declaration", "function_signature", "generator_function_declaration",
    "if_statement", "import_alias", "import_statement", "interface_declaration",
    "internal_module", "labeled_statement", "lexical_declaration", "module", "return_statement",
    "switch_statement", "throw_statement", "try_statement", "type_alias_declaration",
    "variable_declaration", "while_statement", "with_statement"]

def pythonStatements : List String :=
  ["assert_statement", "break_statement", "continue_statement", "delete_statement",
    "exec_statement", "expression_statement", "for_statement", "future_import_statement",
    "global_statement", "if_statement", "import_from_statement", "import_statement",
    "match_statement", "nonlocal_statement", "pass_statement", "print_statement",
    "raise_statement", "return_statement", "try_statement", "while_statement", "with_statement"]

def javascriptMatcher? : SyntacticScope → Option Matcher
  | .statement =>
    some (patterns (javascriptStatements.map ("export_statement?." ++ ·) ++ ["export_statement"]))
  | .classDefinition =>
    some (patterns ["export_statement?.class_declaration",
      "export_statement?.abstract_class_declaration", "export_statement.class", "class"])
  | .className =>
    some (patterns ["class_declaration[name]", "abstract_class_declaration[name]", "class[name]"])
  | .namedFunction =>
    some (patterns ["export_statement?.function_declaration",
      "export_statement?.generator_function_declaration", "export_statement.function",
      "export_statement.arrow_function", "method_definition",
      "public_field_definition.arrow_function",
      "export_statement?.lexical_declaration.variable_declarator.function",
      "export_statement?.lexical_declaration.variable_declarator.arrow_function",
      "assignment_expression.function", "assignment_expression.arrow_function"])
  | .functionName =>
    some (patterns ["function_declaration[name]", "generator_function_declaration[name]",
      "method_definition[name]", "function[name]"])
  | .anonymousFunction => some (patterns ["arrow_function", "function", "function_expression"])
  | .ifStatement => some (patterns ["if_statement"])
  | .comment => some (patterns ["comment"])
  | .string => some (patterns ["string", "template_string"])
  | .regularExpression => some (patterns ["regex"])
  | .map => some (patterns ["object", "object_pattern"])
  | .list => some (patterns ["array", "array_pattern"])
  | .functionCall => some (patterns ["call_expression", "new_expression"])
  | .functionCallee =>
    some (patterns ["call_expression[function]", "new_expression[constructor]"])
  | .condition => some (condition ["*[condition]"])
  | .name =>
    some (patterns ["*[name]", "optional_parameter.identifier!", "required_parameter.identifier!",
      "augmented_assignment_expression[left]", "assignment_expression[left]"])
  | .value =>
    some (patterns ["assignment_expression[right]", "augmented_assignment_expression[right]",
      "*[value]", "return_statement.~return!"])
  | .type =>
    some (patterns ["export_statement?.type_alias_declaration",
      "export_statement?.interface_declaration", "*[type]"])
  | .argumentOrParameter => some (.element ["formal_parameters", "arguments"])
  | .collectionKey => some (patterns ["pair[key]"])
  | .branch => some (patterns ["switch_case", "switch_default", "else_clause"])
  | .elementAttribute => some (patterns ["jsx_attribute"])
  | .xmlElement => some (patterns ["jsx_element", "jsx_self_closing_element"])
  | .xmlStartTag => some (patterns ["jsx_element.jsx_opening_element!"])
  | .xmlEndTag => some (patterns ["jsx_element.jsx_closing_element!"])
  | _ => none

def pythonMatcher? : SyntacticScope → Option Matcher
  | .statement =>
    some (patterns (pythonStatements
      ++ ["decorated_definition?.function_definition", "decorated_definition?.class_definition"]))
  | .classDefinition => some (patterns ["decorated_definition?.class_definition"])
  | .className => some (patterns ["class_definition[name]"])
  | .namedFunction => some (patterns ["decorated_definition?.function_definition"])
  | .functionName => some (patterns ["function_definition[name]"])
  | .anonymousFunction => some (patterns ["lambda?.lambda"])
  | .ifStatement => some (patterns ["if_statement"])
  | .comment => some (patterns ["comment"])
  | .string => some (patterns ["string"])
  | .map => some (patterns ["dictionary", "dictionary_comprehension"])
  | .list => some (patterns ["list", "list_comprehension", "set"])
  | .functionCall => some (patterns ["call"])
  | .functionCallee => some (patterns ["call[function]"])
  | .condition => some (condition ["*[condition]", "conditional_expression[1]"])
  | .name =>
    some (patterns ["assignment[left]", "augmented_assignment[left]",
      "typed_parameter.identifier!", "parameters.identifier!", "*[name]"])
  | .value =>
    some (patterns ["assignment[right]", "augmented_assignment[right]", "~subscript[value]",
      "return_statement.~return!"])
  | .type => some (patterns ["function_definition[return_type]", "*[type]"])
  | .argumentOrParameter => some (.element ["parameters", "argument_list", "lambda_parameters"])
  | .collectionKey => some (patterns ["pair[key]"])
  | .branch =>
    some (patterns ["elif_clause", "else_clause", "except_clause", "finally_clause",
      "case_clause"])
  | _ => none

/-- The tables for a language. Where there are none, strings and comments are still known. -/
def ofName (name : String) : Language :=
  if ["javascript", "javascriptreact", "typescript", "typescriptreact"].contains name then
    ⟨javascriptMatcher?, javascriptFragments⟩
  else if name = "python" then ⟨pythonMatcher?, genericFragments⟩
  else ⟨fun _ => none, genericFragments⟩

def fragmentOf? (l : Language) (t : SyntaxTree) (id : Nat) : Option Range :=
  match l.fragments.find? fun f => f.1 = t.kind id with
  | none => none
  | some (_, .whole) => some (t.range id)
  | some (_, .delimited) =>
    match t.children id with
    | first :: second :: rest =>
      some (.between (t.range first).stop (t.range ((second :: rest).getLastD second)).start)
    | _ => some (t.range id)

def textFragment? (l : Language) (t : SyntaxTree) (id : Nat) : Option Range :=
  (t.ancestors id).findSome? (l.fragmentOf? t)

end Language

end Referent
