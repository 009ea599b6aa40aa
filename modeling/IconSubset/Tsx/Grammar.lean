import IconSubset.Grammar.Rule

/-!
# The grammar of TSX modules

TypeScript with JSX, as one grammar for every source file whatever its extension. It is more liberal
than the language: closing tags need not match their opening tags, argument lists and object
literals may have holes, and a module may return. Angle-bracket casts are not part of it.
-/

namespace IconSubset.Tsx

open Grammar Grammar.Rule

private def lit (text : String) : Rule := .literal text
private def ref (name : String) : Rule := .symbol name
private def oneOf (texts : List String) : Rule := .choice (texts.map .literal)
private def refs (names : List String) : Rule := .choice (names.map .symbol)

/-- An identifier under another name. -/
private def identifierAs (name : String) : Rule := renamed name (ref "identifier")

/-- Words that are keywords in some places and identifiers in others. -/
private def reservedAs (name : String) : Rule := renamed name (ref "_reserved_identifier")

private def decorators : Rule := many (field "decorator" (ref "decorator"))
private def asyncMark : Rule := optional (lit "async")
private def ruleAccess : Rule := optional (ref "accessibility_modifier")
private def overrideMark : Rule := optional (ref "override_modifier")
private def accessorMark : Rule := optional (oneOf ["get", "set", "*"])
private def typeMark : Rule := optional (oneOf ["type", "typeof"])
private def typeParameters : Rule := field "type_parameters" (optional (ref "type_parameters"))
private def typeAnnotation : Rule := field "type" (optional (ref "type_annotation"))
private def typeArguments : Rule := field "type_arguments" (optional (ref "type_arguments"))
private def bindingTarget : Rule := refs ["identifier", "_destructuring_pattern"]

/-- Statements and declarations. -/
private def statementRules : List (String × Rule) :=
  [ ("program", .seq [optional (ref "hash_bang_line"), many (ref "statement")]),
    ("hash_bang_line", .token),
    ("export_statement", .choice
      [ .choice
          [ .seq [lit "export",
              .choice
                [ .seq [lit "*", ref "_from_clause"],
                  .seq [ref "namespace_export", ref "_from_clause"],
                  .seq [ref "export_clause", ref "_from_clause"],
                  ref "export_clause" ],
              ref "_semicolon"],
            .seq [decorators, lit "export",
              .choice
                [ field "declaration" (ref "declaration"),
                  .seq [lit "default",
                    .choice
                      [ field "declaration" (ref "declaration"),
                        .seq [field "value" (ref "expression"), ref "_semicolon"] ]] ]] ],
        .seq [lit "export", lit "type", ref "export_clause", optional (ref "_from_clause"),
          ref "_semicolon"],
        .seq [lit "export", lit "import", ref "import_alias"],
        .seq [lit "export", lit "=", ref "expression", ref "_semicolon"],
        .seq [lit "export", lit "as", lit "namespace", ref "identifier", ref "_semicolon"] ]),
    ("namespace_export", .seq [lit "*", lit "as", ref "_module_export_name"]),
    ("export_clause", .seq
      [lit "\x7b", commaSep (ref "export_specifier"), optional (lit ","), lit "\x7d"]),
    ("export_specifier", .seq
      [ typeMark,
        .seq
          [ field "name" (ref "_module_export_name"),
            optional (.seq [lit "as", field "alias" (ref "_module_export_name")]) ] ]),
    ("_module_export_name", .choice [ref "identifier", ref "string", lit "default"]),
    ("declaration", .choice
      [ refs ["function_declaration", "generator_function_declaration", "class_declaration",
          "lexical_declaration", "variable_declaration"],
        ref "function_signature",
        ref "abstract_class_declaration",
        ref "module",
        ranked "declare" (ref "internal_module"),
        ref "type_alias_declaration",
        ref "enum_declaration",
        ref "interface_declaration",
        ref "import_alias",
        ref "ambient_declaration" ]),
    ("import", lit "import"),
    ("import_statement", .seq
      [ lit "import",
        typeMark,
        .choice
          [ .seq [ref "import_clause", ref "_from_clause"],
            ref "import_require_clause",
            field "source" (ref "string") ],
        optional (ref "import_attribute"),
        ref "_semicolon" ]),
    ("import_clause", .choice
      [ ref "namespace_import",
        ref "named_imports",
        .seq
          [ ref "_import_identifier",
            optional (.seq [lit ",", refs ["namespace_import", "named_imports"]]) ] ]),
    ("_from_clause", .seq [lit "from", field "source" (ref "string")]),
    ("namespace_import", .seq [lit "*", lit "as", ref "identifier"]),
    ("named_imports", .seq
      [lit "\x7b", commaSep (ref "import_specifier"), optional (lit ","), lit "\x7d"]),
    ("import_specifier", .seq
      [ typeMark,
        .choice
          [ field "name" (ref "_import_identifier"),
            .seq
              [ field "name"
                  (.choice [ref "_module_export_name", renamed "identifier" (lit "type")]),
                lit "as",
                field "alias" (ref "_import_identifier") ] ] ]),
    ("import_attribute", .seq [lit "with", ref "object"]),
    ("statement", refs
      [ "export_statement", "import_statement", "debugger_statement", "expression_statement",
        "declaration", "statement_block", "if_statement", "switch_statement", "for_statement",
        "for_in_statement", "while_statement", "do_statement", "try_statement", "with_statement",
        "break_statement", "continue_statement", "return_statement", "throw_statement",
        "empty_statement", "labeled_statement" ]),
    ("expression_statement", .seq [ref "_expressions", ref "_semicolon"]),
    ("variable_declaration", .seq
      [lit "var", commaSep1 (ref "variable_declarator"), ref "_semicolon"]),
    ("lexical_declaration", .seq
      [ field "kind" (oneOf ["let", "const"]),
        commaSep1 (ref "variable_declarator"),
        ref "_semicolon" ]),
    ("variable_declarator", .choice
      [ .seq [field "name" bindingTarget, typeAnnotation, optional (ref "_initializer")],
        ranked "declare" (.seq
          [field "name" (ref "identifier"), lit "!", field "type" (ref "type_annotation")]) ]),
    ("statement_block", rightward (.seq
      [lit "\x7b", many (ref "statement"), lit "\x7d", optional (ref "_automatic_semicolon")])),
    ("else_clause", .seq [lit "else", ref "statement"]),
    ("if_statement", rightward (.seq
      [ lit "if",
        field "condition" (ref "parenthesized_expression"),
        field "consequence" (ref "statement"),
        optional (field "alternative" (ref "else_clause")) ])),
    ("switch_statement", .seq
      [ lit "switch",
        field "value" (ref "parenthesized_expression"),
        field "body" (ref "switch_body") ]),
    ("for_statement", .seq
      [ lit "for", lit "(",
        .choice
          [ field "initializer" (refs ["lexical_declaration", "variable_declaration"]),
            .seq [field "initializer" (ref "_expressions"), lit ";"],
            field "initializer" (ref "empty_statement") ],
        field "condition" (.choice
          [.seq [ref "_expressions", lit ";"], ref "empty_statement"]),
        field "increment" (optional (ref "_expressions")),
        lit ")",
        field "body" (ref "statement") ]),
    ("for_in_statement", .seq
      [lit "for", optional (lit "await"), ref "_for_header", field "body" (ref "statement")]),
    ("_for_header", .seq
      [ lit "(",
        .choice
          [ field "left" (refs ["_lhs_expression", "parenthesized_expression"]),
            .seq
              [ field "kind" (lit "var"),
                field "left" bindingTarget,
                optional (ref "_initializer") ],
            .seq
              [ field "kind" (oneOf ["let", "const"]),
                field "left" bindingTarget,
                optional (ref "_automatic_semicolon") ] ],
        field "operator" (oneOf ["in", "of"]),
        field "right" (ref "_expressions"),
        lit ")" ]),
    ("while_statement", .seq
      [ lit "while",
        field "condition" (ref "parenthesized_expression"),
        field "body" (ref "statement") ]),
    ("do_statement", rightward (.seq
      [ lit "do",
        field "body" (ref "statement"),
        lit "while",
        field "condition" (ref "parenthesized_expression"),
        optional (ref "_semicolon") ])),
    ("try_statement", .seq
      [ lit "try",
        field "body" (ref "statement_block"),
        optional (field "handler" (ref "catch_clause")),
        optional (field "finalizer" (ref "finally_clause")) ]),
    ("with_statement", .seq
      [ lit "with",
        field "object" (ref "parenthesized_expression"),
        field "body" (ref "statement") ]),
    ("break_statement", .seq
      [ lit "break",
        field "label" (optional (identifierAs "statement_identifier")),
        ref "_semicolon" ]),
    ("continue_statement", .seq
      [ lit "continue",
        field "label" (optional (identifierAs "statement_identifier")),
        ref "_semicolon" ]),
    ("debugger_statement", .seq [lit "debugger", ref "_semicolon"]),
    ("return_statement", .seq [lit "return", optional (ref "_expressions"), ref "_semicolon"]),
    ("throw_statement", .seq [lit "throw", ref "_expressions", ref "_semicolon"]),
    ("empty_statement", lit ";"),
    ("labeled_statement", .dynamic (-1) (.seq
      [ field "label"
          (renamed "statement_identifier" (refs ["identifier", "_reserved_identifier"])),
        lit ":",
        field "body" (ref "statement") ])),
    ("switch_body", .seq [lit "\x7b", many (refs ["switch_case", "switch_default"]), lit "\x7d"]),
    ("switch_case", .seq
      [ lit "case",
        field "value" (ref "_expressions"),
        lit ":",
        field "body" (many (ref "statement")) ]),
    ("switch_default", .seq [lit "default", lit ":", field "body" (many (ref "statement"))]),
    ("catch_clause", .seq
      [ lit "catch",
        optional (.seq
          [ lit "(",
            field "parameter" bindingTarget,
            optional (field "type" (ref "type_annotation")),
            lit ")" ]),
        field "body" (ref "statement_block") ]),
    ("finally_clause", .seq [lit "finally", field "body" (ref "statement_block")]) ]

/-- A binary operator with its precedence. -/
private def binary (side : String → Rule → Rule) (level operator : String) : Rule :=
  side level (.seq
    [ field "left" (ref "expression"),
      field "operator" (lit operator),
      field "right" (ref "expression") ])

/-- The binary operators with expressions on both sides and their precedences. -/
private def binaryOperators : List (String × String) :=
  [ ("&&", "logical_and"), ("||", "logical_or"), (">>", "binary_shift"), (">>>", "binary_shift"),
    ("<<", "binary_shift"), ("&", "bitwise_and"), ("^", "bitwise_xor"), ("|", "bitwise_or"),
    ("+", "binary_plus"), ("-", "binary_plus"), ("*", "binary_times"), ("/", "binary_times"),
    ("%", "binary_times"), ("**", "binary_exp"), ("<", "binary_relation"),
    ("<=", "binary_relation"), ("==", "binary_equality"), ("===", "binary_equality"),
    ("!=", "binary_equality"), ("!==", "binary_equality"), (">=", "binary_relation"),
    (">", "binary_relation"), ("??", "ternary"), ("instanceof", "binary_relation") ]

private def quoted (quote : String) (parts : List Rule) : Rule :=
  .seq [lit quote, many (.choice parts), lit quote]

/-- Expressions, among them JSX elements. -/
private def expressionRules : List (String × Rule) :=
  [ ("parenthesized_expression", .seq
      [ lit "(",
        .choice [.seq [ref "expression", typeAnnotation], ref "sequence_expression"],
        lit ")" ]),
    ("_expressions", refs ["expression", "sequence_expression"]),
    ("expression", refs
      [ "as_expression", "satisfies_expression", "instantiation_expression", "internal_module",
        "primary_expression", "_jsx_element", "assignment_expression",
        "augmented_assignment_expression", "await_expression", "unary_expression",
        "binary_expression", "ternary_expression", "update_expression", "new_expression",
        "yield_expression", "arrow_function" ]),
    ("primary_expression", .choice
      [ refs ["subscript_expression", "member_expression", "parenthesized_expression",
          "_identifier"],
        reservedAs "identifier",
        refs ["this", "super", "number", "string", "template_string", "regex", "true", "false",
          "null", "object", "array", "function_expression", "generator_function", "class",
          "meta_property", "call_expression"],
        ref "non_null_expression" ]),
    ("yield_expression", rightward (.seq
      [ lit "yield",
        .choice [.seq [lit "*", ref "expression"], optional (ref "expression")] ])),
    ("object", ranked "object" (.seq
      [ lit "\x7b",
        commaSep (optional (.choice
          [ ref "pair", ref "spread_element", ref "method_definition",
            renamed "shorthand_property_identifier"
              (refs ["identifier", "_reserved_identifier"]) ])),
        lit "\x7d" ])),
    ("object_pattern", ranked "object" (.seq
      [ lit "\x7b",
        commaSep (optional (.choice
          [ ref "pair_pattern", ref "rest_pattern", ref "object_assignment_pattern",
            renamed "shorthand_property_identifier_pattern"
              (refs ["identifier", "_reserved_identifier"]) ])),
        lit "\x7d" ])),
    ("assignment_pattern", .seq
      [field "left" (ref "pattern"), lit "=", field "right" (ref "expression")]),
    ("object_assignment_pattern", .seq
      [ field "left" (.choice
          [ renamed "shorthand_property_identifier_pattern"
              (refs ["_reserved_identifier", "identifier"]),
            ref "_destructuring_pattern" ]),
        lit "=",
        field "right" (ref "expression") ]),
    ("array", .seq
      [lit "[", commaSep (optional (refs ["expression", "spread_element"])), lit "]"]),
    ("array_pattern", .seq
      [lit "[", commaSep (optional (refs ["pattern", "assignment_pattern"])), lit "]"]),
    ("_jsx_element", refs ["jsx_element", "jsx_self_closing_element"]),
    ("jsx_element", .seq
      [ field "open_tag" (ref "jsx_opening_element"),
        many (ref "_jsx_child"),
        field "close_tag" (ref "jsx_closing_element") ]),
    ("html_character_reference", .token),
    ("jsx_expression", .seq
      [ lit "\x7b",
        optional (refs ["expression", "sequence_expression", "spread_element"]),
        lit "\x7d" ]),
    ("_jsx_child", refs
      ["jsx_text", "html_character_reference", "_jsx_element", "jsx_expression"]),
    ("jsx_opening_element", .dynamic (-1) (.seq [ref "_jsx_start_opening_element", lit ">"])),
    ("jsx_identifier", .token),
    ("_jsx_identifier", .choice
      [renamed "identifier" (ref "jsx_identifier"), ref "identifier"]),
    ("nested_identifier", ranked "member" (.seq
      [ field "object" (.choice
          [ref "identifier", renamed "member_expression" (ref "nested_identifier")]),
        lit ".",
        field "property" (identifierAs "property_identifier") ])),
    ("jsx_namespace_name", .seq [ref "_jsx_identifier", lit ":", ref "_jsx_identifier"]),
    ("_jsx_element_name", .choice
      [ ref "_jsx_identifier",
        renamed "member_expression" (ref "nested_identifier"),
        ref "jsx_namespace_name" ]),
    ("jsx_closing_element", .seq
      [lit "</", optional (field "name" (ref "_jsx_element_name")), lit ">"]),
    ("jsx_self_closing_element", .dynamic (-1) (.seq
      [ref "_jsx_start_opening_element", lit "/>"])),
    ("_jsx_attribute", refs ["jsx_attribute", "jsx_expression"]),
    ("_jsx_attribute_name", .choice
      [renamed "property_identifier" (ref "_jsx_identifier"), ref "jsx_namespace_name"]),
    ("jsx_attribute", .seq
      [ ref "_jsx_attribute_name",
        optional (.seq [lit "=", ref "_jsx_attribute_value"]) ]),
    ("_jsx_string", .choice
      [ quoted "\""
          [ renamed "string_fragment" (ref "unescaped_double_jsx_string_fragment"),
            ref "html_character_reference" ],
        quoted "'"
          [ renamed "string_fragment" (ref "unescaped_single_jsx_string_fragment"),
            ref "html_character_reference" ] ]),
    ("unescaped_double_jsx_string_fragment", .token),
    ("unescaped_single_jsx_string_fragment", .token),
    ("_jsx_attribute_value", .choice
      [renamed "string" (ref "_jsx_string"), ref "jsx_expression", ref "_jsx_element"]),
    ("class", ranked "literal" (.seq
      [ decorators, lit "class",
        field "name" (optional (ref "_type_identifier")),
        typeParameters,
        optional (ref "class_heritage"),
        field "body" (ref "class_body") ])),
    ("class_declaration", rankedLeft "declare" (.seq
      [ decorators, lit "class",
        field "name" (ref "_type_identifier"),
        typeParameters,
        optional (ref "class_heritage"),
        field "body" (ref "class_body"),
        optional (ref "_automatic_semicolon") ])),
    ("class_heritage", .choice
      [ .seq [ref "extends_clause", optional (ref "implements_clause")],
        ref "implements_clause" ]),
    ("function_expression", ranked "literal" (.seq
      [ asyncMark, lit "function",
        field "name" (optional (ref "identifier")),
        ref "_call_signature",
        field "body" (ref "statement_block") ])),
    ("function_declaration", rankedRight "declare" (.seq
      [ asyncMark, lit "function",
        field "name" (ref "identifier"),
        ref "_call_signature",
        field "body" (ref "statement_block"),
        optional (ref "_automatic_semicolon") ])),
    ("generator_function", ranked "literal" (.seq
      [ asyncMark, lit "function", lit "*",
        field "name" (optional (ref "identifier")),
        ref "_call_signature",
        field "body" (ref "statement_block") ])),
    ("generator_function_declaration", rankedRight "declare" (.seq
      [ asyncMark, lit "function", lit "*",
        field "name" (ref "identifier"),
        ref "_call_signature",
        field "body" (ref "statement_block"),
        optional (ref "_automatic_semicolon") ])),
    ("arrow_function", .seq
      [ asyncMark,
        .choice
          [ field "parameter" (.choice [reservedAs "identifier", ref "identifier"]),
            ref "_call_signature" ],
        lit "=>",
        field "body" (refs ["expression", "statement_block"]) ]),
    ("_call_signature", .seq
      [ typeParameters,
        field "parameters" (ref "formal_parameters"),
        field "return_type" (optional
          (refs ["type_annotation", "asserts_annotation", "type_predicate_annotation"])) ]),
    ("_formal_parameter", refs ["required_parameter", "optional_parameter"]),
    ("optional_chain", lit "?."),
    ("call_expression", .choice
      [ ranked "call" (.seq
          [ field "function" (refs ["expression", "import"]),
            typeArguments,
            field "arguments" (ref "arguments") ]),
        ranked "template_call" (.seq
          [ field "function" (refs ["primary_expression", "new_expression"]),
            field "arguments" (ref "template_string") ]),
        ranked "member" (.seq
          [ field "function" (ref "primary_expression"),
            lit "?.",
            typeArguments,
            field "arguments" (ref "arguments") ]) ]),
    ("new_expression", rankedRight "new" (.seq
      [ lit "new",
        field "constructor" (ref "primary_expression"),
        typeArguments,
        field "arguments" (optional (ref "arguments")) ])),
    ("await_expression", ranked "unary_void" (.seq [lit "await", ref "expression"])),
    ("member_expression", ranked "member" (.seq
      [ field "object" (refs ["expression", "primary_expression", "import"]),
        .choice [lit ".", field "optional_chain" (ref "optional_chain")],
        field "property" (.choice
          [ref "private_property_identifier", identifierAs "property_identifier"]) ])),
    ("subscript_expression", rankedRight "member" (.seq
      [ field "object" (refs ["expression", "primary_expression"]),
        optional (field "optional_chain" (ref "optional_chain")),
        lit "[",
        field "index" (ref "_expressions"),
        lit "]" ])),
    ("_lhs_expression", .choice
      [ refs ["member_expression", "subscript_expression", "_identifier"],
        reservedAs "identifier",
        ref "_destructuring_pattern",
        ref "non_null_expression" ]),
    ("assignment_expression", rankedRight "assign" (.seq
      [ optional (lit "using"),
        field "left" (refs ["parenthesized_expression", "_lhs_expression"]),
        lit "=",
        field "right" (ref "expression") ])),
    ("_augmented_assignment_lhs", .choice
      [ refs ["member_expression", "subscript_expression"],
        reservedAs "identifier",
        refs ["identifier", "parenthesized_expression"],
        ref "non_null_expression" ]),
    ("augmented_assignment_expression", rankedRight "assign" (.seq
      [ field "left" (ref "_augmented_assignment_lhs"),
        field "operator" (oneOf
          ["+=", "-=", "*=", "/=", "%=", "^=", "&=", "|=", ">>=", ">>>=", "<<=", "**=", "&&=",
            "||=", "??="]),
        field "right" (ref "expression") ])),
    ("_initializer", .seq [lit "=", field "value" (ref "expression")]),
    ("_destructuring_pattern", refs ["object_pattern", "array_pattern"]),
    ("spread_element", .seq [lit "...", ref "expression"]),
    ("ternary_expression", rankedRight "ternary" (.seq
      [ field "condition" (ref "expression"),
        spelled "?" (ref "_ternary_qmark"),
        field "consequence" (ref "expression"),
        lit ":",
        field "alternative" (ref "expression") ])),
    ("binary_expression", .choice
      (binaryOperators.map (fun (operator, level) =>
          binary (if operator == "**" then rankedRight else rankedLeft) level operator) ++
        [ rankedLeft "binary_relation" (.seq
            [ field "left" (refs ["expression", "private_property_identifier"]),
              field "operator" (lit "in"),
              field "right" (ref "expression") ]) ])),
    ("unary_expression", rankedLeft "unary_void" (.seq
      [ field "operator" (oneOf ["!", "~", "-", "+", "typeof", "void", "delete"]),
        field "argument" (ref "expression") ])),
    ("update_expression", leftward (.choice
      [ .seq [field "argument" (ref "expression"), field "operator" (oneOf ["++", "--"])],
        .seq [field "operator" (oneOf ["++", "--"]), field "argument" (ref "expression")] ])),
    ("sequence_expression", rightward (commaSep1 (ref "expression"))),
    ("string", .choice
      [ quoted "\""
          [ renamed "string_fragment" (ref "unescaped_double_string_fragment"),
            ref "escape_sequence" ],
        quoted "'"
          [ renamed "string_fragment" (ref "unescaped_single_string_fragment"),
            ref "escape_sequence" ] ]),
    ("unescaped_double_string_fragment", .token),
    ("unescaped_single_string_fragment", .token),
    ("escape_sequence", .token),
    ("comment", .token),
    ("template_string", quoted "`"
      [ renamed "string_fragment" (ref "_template_chars"),
        ref "escape_sequence",
        ref "template_substitution" ]),
    ("template_substitution", .seq [lit "$\x7b", ref "_expressions", lit "\x7d"]),
    ("regex", .seq
      [ lit "/",
        field "pattern" (ref "regex_pattern"),
        spelled "/" (ref "regex_close"),
        optional (field "flags" (ref "regex_flags")) ]),
    ("regex_pattern", .token),
    ("regex_close", .token),
    ("regex_flags", .token),
    ("number", .token),
    ("_identifier", refs ["undefined", "identifier"]),
    ("identifier", .token),
    ("private_property_identifier", .token),
    ("meta_property", .choice
      [ .seq [lit "new", lit ".", lit "target"],
        .seq [lit "import", lit ".", lit "meta"] ]),
    ("this", lit "this"),
    ("super", lit "super"),
    ("true", lit "true"),
    ("false", lit "false"),
    ("null", lit "null"),
    ("undefined", lit "undefined"),
    ("arguments", .seq
      [lit "(", commaSep (optional (refs ["expression", "spread_element"])), lit ")"]),
    ("decorator", .seq
      [ lit "@",
        .choice
          [ ref "identifier",
            renamed "member_expression" (ref "decorator_member_expression"),
            renamed "call_expression" (ref "decorator_call_expression"),
            renamed "parenthesized_expression" (ref "decorator_parenthesized_expression") ] ]),
    ("decorator_member_expression", ranked "member" (.seq
      [ field "object" (.choice
          [ ref "identifier",
            renamed "member_expression" (ref "decorator_member_expression") ]),
        lit ".",
        field "property" (identifierAs "property_identifier") ])),
    ("decorator_call_expression", ranked "call" (.seq
      [ field "function" (.choice
          [ ref "identifier",
            renamed "member_expression" (ref "decorator_member_expression") ]),
        optional (field "type_arguments" (ref "type_arguments")),
        field "arguments" (ref "arguments") ])) ]

/-- Classes, parameters and names of members. -/
private def memberRules : List (String × Rule) :=
  [ ("class_body", .seq
      [ lit "\x7b",
        many (.choice
          [ .seq [decorators, ref "method_definition", optional (ref "_semicolon")],
            .seq
              [ ref "method_signature",
                .choice [ref "_function_signature_automatic_semicolon", lit ","] ],
            ref "class_static_block",
            .seq
              [ refs ["abstract_method_signature", "index_signature", "method_signature",
                  "public_field_definition"],
                .choice [ref "_semicolon", lit ","] ],
            lit ";" ]),
        lit "\x7d" ]),
    ("formal_parameters", .seq
      [ lit "(",
        optional (.seq [commaSep1 (ref "_formal_parameter"), optional (lit ",")]),
        lit ")" ]),
    ("class_static_block", .seq [lit "static", field "body" (ref "statement_block")]),
    ("pattern", .dynamic (-1) (refs ["_lhs_expression", "rest_pattern"])),
    ("rest_pattern", rightward (.seq [lit "...", ref "_lhs_expression"])),
    ("method_definition", leftward (.seq
      [ ruleAccess, optional (lit "static"), overrideMark, optional (lit "readonly"), asyncMark,
        accessorMark,
        field "name" (ref "_property_name"),
        optional (lit "?"),
        ref "_call_signature",
        field "body" (ref "statement_block") ])),
    ("pair", .seq
      [field "key" (ref "_property_name"), lit ":", field "value" (ref "expression")]),
    ("pair_pattern", .seq
      [ field "key" (ref "_property_name"),
        lit ":",
        field "value" (refs ["pattern", "assignment_pattern"]) ]),
    ("_property_name", .choice
      [ renamed "property_identifier" (refs ["identifier", "_reserved_identifier"]),
        refs ["private_property_identifier", "string", "number", "computed_property_name"] ]),
    ("computed_property_name", .seq [lit "[", ref "expression", lit "]"]),
    ("_reserved_identifier", oneOf
      [ "declare", "namespace", "type", "public", "private", "protected", "override", "readonly",
        "module", "any", "number", "boolean", "string", "symbol", "export", "object", "new",
        "get", "set", "async", "static", "let" ]),
    ("_semicolon", .choice [ref "_automatic_semicolon", lit ";"]),
    ("public_field_definition", .seq
      [ decorators,
        optional (.choice
          [ .seq [lit "declare", ruleAccess],
            .seq [ref "accessibility_modifier", optional (lit "declare")] ]),
        .choice
          [ .seq [optional (lit "static"), overrideMark, optional (lit "readonly")],
            .seq [optional (lit "abstract"), optional (lit "readonly")],
            .seq [optional (lit "readonly"), optional (lit "abstract")],
            optional (lit "accessor") ],
        field "name" (ref "_property_name"),
        optional (oneOf ["?", "!"]),
        typeAnnotation,
        optional (ref "_initializer") ]),
    ("_jsx_start_opening_element", .seq
      [ lit "<",
        optional (.seq
          [ .choice
              [ field "name" (refs ["_jsx_identifier", "jsx_namespace_name"]),
                .seq
                  [ field "name" (.choice
                      [ref "identifier", renamed "member_expression" (ref "nested_identifier")]),
                    typeArguments ] ],
            many (field "attribute" (ref "_jsx_attribute")) ]) ]),
    ("_import_identifier", .choice [ref "identifier", renamed "identifier" (lit "type")]),
    ("non_null_expression", rankedLeft "unary" (.seq [ref "expression", lit "!"])),
    ("method_signature", .seq
      [ ruleAccess, optional (lit "static"), overrideMark, optional (lit "readonly"), asyncMark,
        accessorMark,
        field "name" (ref "_property_name"),
        optional (lit "?"),
        ref "_call_signature" ]),
    ("abstract_method_signature", .seq
      [ ruleAccess, lit "abstract", overrideMark, accessorMark,
        field "name" (ref "_property_name"),
        optional (lit "?"),
        ref "_call_signature" ]),
    ("function_signature", .seq
      [ asyncMark, lit "function",
        field "name" (ref "identifier"),
        ref "_call_signature",
        .choice [ref "_semicolon", ref "_function_signature_automatic_semicolon"] ]),
    ("decorator_parenthesized_expression", .seq
      [ lit "(",
        .choice
          [ ref "identifier",
            renamed "member_expression" (ref "decorator_member_expression"),
            renamed "call_expression" (ref "decorator_call_expression") ],
        lit ")" ]),
    ("as_expression", rankedLeft "binary" (.seq
      [ref "expression", lit "as", .choice [lit "const", ref "type"]])),
    ("satisfies_expression", rankedLeft "binary" (.seq
      [ref "expression", lit "satisfies", ref "type"])),
    ("instantiation_expression", ranked "instantiation" (.seq
      [ref "expression", field "type_arguments" (ref "type_arguments")])),
    ("import_require_clause", .seq
      [ ref "identifier", lit "=", lit "require", lit "(",
        field "source" (ref "string"),
        lit ")" ]),
    ("extends_clause", .seq [lit "extends", commaSep1 (ref "_extends_clause_single")]),
    ("_extends_clause_single", ranked "extends" (.seq
      [field "value" (ref "expression"), typeArguments])),
    ("implements_clause", .seq [lit "implements", commaSep1 (ref "type")]),
    ("ambient_declaration", .seq
      [ lit "declare",
        .choice
          [ ref "declaration",
            .seq [lit "global", ref "statement_block"],
            .seq
              [ lit "module", lit ".", identifierAs "property_identifier", lit ":", ref "type",
                ref "_semicolon" ] ] ]),
    ("abstract_class_declaration", ranked "declare" (.seq
      [ decorators, lit "abstract", lit "class",
        field "name" (ref "_type_identifier"),
        typeParameters,
        optional (ref "class_heritage"),
        field "body" (ref "class_body") ])),
    ("module", .seq [lit "module", ref "_module"]),
    ("internal_module", .seq [lit "namespace", ref "_module"]),
    ("_module", rightward (.seq
      [ field "name" (refs ["string", "identifier", "nested_identifier"]),
        field "body" (optional (ref "statement_block")) ])),
    ("import_alias", .seq
      [ lit "import", ref "identifier", lit "=", refs ["identifier", "nested_identifier"],
        ref "_semicolon" ]),
    ("nested_type_identifier", ranked "member" (.seq
      [ field "module" (refs ["identifier", "nested_identifier"]),
        lit ".",
        field "name" (ref "_type_identifier") ])),
    ("interface_declaration", .seq
      [ lit "interface",
        field "name" (ref "_type_identifier"),
        typeParameters,
        optional (ref "extends_type_clause"),
        field "body" (renamed "interface_body" (ref "object_type")) ]),
    ("extends_type_clause", .seq
      [ lit "extends",
        commaSep1 (field "type"
          (refs ["_type_identifier", "nested_type_identifier", "generic_type"])) ]),
    ("enum_declaration", .seq
      [ optional (lit "const"), lit "enum",
        field "name" (ref "identifier"),
        field "body" (ref "enum_body") ]),
    ("enum_body", .seq
      [ lit "\x7b",
        optional (.seq
          [ commaSep1 (.choice [field "name" (ref "_property_name"), ref "enum_assignment"]),
            optional (lit ",") ]),
        lit "\x7d" ]),
    ("enum_assignment", .seq [field "name" (ref "_property_name"), ref "_initializer"]),
    ("type_alias_declaration", .seq
      [ lit "type",
        field "name" (ref "_type_identifier"),
        typeParameters,
        lit "=",
        field "value" (ref "type"),
        ref "_semicolon" ]),
    ("accessibility_modifier", oneOf ["public", "private", "protected"]),
    ("override_modifier", lit "override"),
    ("required_parameter", .seq
      [ref "_parameter_name", typeAnnotation, optional (ref "_initializer")]),
    ("optional_parameter", .seq
      [ref "_parameter_name", lit "?", typeAnnotation, optional (ref "_initializer")]),
    ("_parameter_name", .seq
      [ decorators, ruleAccess, overrideMark, optional (lit "readonly"),
        field "pattern" (refs ["pattern", "this"]) ]) ]

/-- Types. -/
private def typeRules : List (String × Rule) :=
  [ ("omitting_type_annotation", .seq [lit "-?:", ref "type"]),
    ("adding_type_annotation", .seq [lit "+?:", ref "type"]),
    ("opting_type_annotation", .seq [lit "?:", ref "type"]),
    ("type_annotation", .seq
      [ lit ":",
        .choice
          [ ref "type",
            renamed "member_expression" (ref "_type_query_member_expression_in_type_annotation"),
            renamed "call_expression"
              (ref "_type_query_call_expression_in_type_annotation") ] ]),
    ("_type_query_member_expression_in_type_annotation", .seq
      [ field "object" (.choice
          [ ref "import",
            renamed "member_expression" (ref "_type_query_member_expression_in_type_annotation"),
            renamed "call_expression" (ref "_type_query_call_expression_in_type_annotation") ]),
        lit ".",
        field "property" (.choice
          [ref "private_property_identifier", identifierAs "property_identifier"]) ]),
    ("_type_query_call_expression_in_type_annotation", .seq
      [ field "function" (.choice
          [ ref "import",
            renamed "member_expression"
              (ref "_type_query_member_expression_in_type_annotation") ]),
        field "arguments" (ref "arguments") ]),
    ("asserts", .seq [lit "asserts", refs ["type_predicate", "identifier", "this"]]),
    ("asserts_annotation", .seq [lit ":", ref "asserts"]),
    ("type", .choice
      [ refs ["primary_type", "function_type", "readonly_type", "constructor_type",
          "infer_type"],
        .prec (.level (-1)) none (renamed "member_expression"
          (ref "_type_query_member_expression_in_type_annotation")),
        .prec (.level (-1)) none (renamed "call_expression"
          (ref "_type_query_call_expression_in_type_annotation")) ]),
    ("tuple_parameter", .seq
      [field "name" (refs ["identifier", "rest_pattern"]), field "type" (ref "type_annotation")]),
    ("optional_tuple_parameter", .seq
      [field "name" (ref "identifier"), lit "?", field "type" (ref "type_annotation")]),
    ("optional_type", .seq [ref "type", lit "?"]),
    ("rest_type", .seq [lit "...", ref "type"]),
    ("_tuple_type_member", .choice
      [ renamed "required_parameter" (ref "tuple_parameter"),
        renamed "optional_parameter" (ref "optional_tuple_parameter"),
        refs ["optional_type", "rest_type", "type"] ]),
    ("constructor_type", leftward (.seq
      [ optional (lit "abstract"), lit "new", typeParameters,
        field "parameters" (ref "formal_parameters"),
        lit "=>",
        field "type" (ref "type") ])),
    ("primary_type", .choice
      [ refs ["parenthesized_type", "predefined_type", "_type_identifier",
          "nested_type_identifier", "generic_type", "object_type", "array_type", "tuple_type",
          "flow_maybe_type", "type_query", "index_type_query"],
        renamed "this_type" (ref "this"),
        refs ["existential_type", "literal_type", "lookup_type", "conditional_type",
          "template_literal_type", "intersection_type", "union_type"],
        lit "const" ]),
    ("template_type", .seq [lit "$\x7b", refs ["primary_type", "infer_type"], lit "\x7d"]),
    ("template_literal_type", quoted "`"
      [renamed "string_fragment" (ref "_template_chars"), ref "template_type"]),
    ("infer_type", rightward (.seq
      [ lit "infer", ref "_type_identifier",
        optional (.seq [lit "extends", ref "type"]) ])),
    ("conditional_type", rightward (.seq
      [ field "left" (ref "type"),
        lit "extends",
        field "right" (ref "type"),
        spelled "?" (ref "_ternary_qmark"),
        field "consequence" (ref "type"),
        lit ":",
        field "alternative" (ref "type") ])),
    ("generic_type", ranked "call" (.seq
      [ field "name" (refs ["_type_identifier", "nested_type_identifier"]),
        field "type_arguments" (ref "type_arguments") ])),
    ("type_predicate", .seq
      [ field "name" (.choice
          [refs ["identifier", "this"], renamed "identifier" (ref "predefined_type")]),
        lit "is",
        field "type" (ref "type") ]),
    ("type_predicate_annotation", .seq [lit ":", ref "type_predicate"]),
    ("_type_query_member_expression", .seq
      [ field "object" (.choice
          [ refs ["identifier", "this"],
            renamed "subscript_expression" (ref "_type_query_subscript_expression"),
            renamed "member_expression" (ref "_type_query_member_expression"),
            renamed "call_expression" (ref "_type_query_call_expression") ]),
        oneOf [".", "?."],
        field "property" (.choice
          [ref "private_property_identifier", identifierAs "property_identifier"]) ]),
    ("_type_query_subscript_expression", .seq
      [ field "object" (.choice
          [ refs ["identifier", "this"],
            renamed "subscript_expression" (ref "_type_query_subscript_expression"),
            renamed "member_expression" (ref "_type_query_member_expression"),
            renamed "call_expression" (ref "_type_query_call_expression") ]),
        optional (lit "?."),
        lit "[",
        field "index" (refs ["predefined_type", "string", "number"]),
        lit "]" ]),
    ("_type_query_call_expression", .seq
      [ field "function" (.choice
          [ refs ["import", "identifier"],
            renamed "member_expression" (ref "_type_query_member_expression"),
            renamed "subscript_expression" (ref "_type_query_subscript_expression") ]),
        field "arguments" (ref "arguments") ]),
    ("_type_query_instantiation_expression", .seq
      [ field "function" (.choice
          [ refs ["import", "identifier"],
            renamed "member_expression" (ref "_type_query_member_expression"),
            renamed "subscript_expression" (ref "_type_query_subscript_expression") ]),
        field "type_arguments" (ref "type_arguments") ]),
    ("type_query", rightward (.seq
      [ lit "typeof",
        .choice
          [ renamed "subscript_expression" (ref "_type_query_subscript_expression"),
            renamed "member_expression" (ref "_type_query_member_expression"),
            renamed "call_expression" (ref "_type_query_call_expression"),
            renamed "instantiation_expression" (ref "_type_query_instantiation_expression"),
            refs ["identifier", "this"] ] ])),
    ("index_type_query", .seq [lit "keyof", ref "primary_type"]),
    ("lookup_type", .seq [ref "primary_type", lit "[", ref "type", lit "]"]),
    ("mapped_type_clause", .seq
      [ field "name" (ref "_type_identifier"),
        lit "in",
        field "type" (ref "type"),
        optional (.seq [lit "as", field "alias" (ref "type")]) ]),
    ("literal_type", .choice
      [ renamed "unary_expression" (ref "_number"),
        refs ["number", "string", "true", "false", "null", "undefined"] ]),
    ("_number", .prec (.level 1) (some .left) (.seq
      [field "operator" (oneOf ["-", "+"]), field "argument" (ref "number")])),
    ("existential_type", lit "*"),
    ("flow_maybe_type", rightward (.seq [lit "?", ref "primary_type"])),
    ("parenthesized_type", .seq [lit "(", ref "type", lit ")"]),
    ("predefined_type", .choice
      [ oneOf ["any", "number", "boolean", "string", "symbol"],
        spelled "unique symbol" (.seq [lit "unique", lit "symbol"]),
        oneOf ["void", "unknown", "string", "never", "object"] ]),
    ("type_arguments", .seq
      [lit "<", commaSep1 (ref "type"), optional (lit ","), lit ">"]),
    ("object_type", .seq
      [ oneOf ["\x7b", "\x7b|"],
        optional (.seq
          [ optional (oneOf [",", ";"]),
            sepBy1 (.choice [lit ",", ref "_semicolon"])
              (refs ["export_statement", "property_signature", "call_signature",
                "construct_signature", "index_signature", "method_signature"]),
            optional (.choice [lit ",", ref "_semicolon"]) ]),
        oneOf ["\x7d", "|\x7d"] ]),
    ("call_signature", ref "_call_signature"),
    ("property_signature", .seq
      [ ruleAccess, optional (lit "static"), overrideMark, optional (lit "readonly"),
        field "name" (ref "_property_name"),
        optional (lit "?"),
        typeAnnotation ]),
    ("type_parameters", .seq
      [lit "<", commaSep1 (ref "type_parameter"), optional (lit ","), lit ">"]),
    ("type_parameter", .seq
      [ optional (lit "const"),
        field "name" (ref "_type_identifier"),
        field "constraint" (optional (ref "constraint")),
        field "value" (optional (ref "default_type")) ]),
    ("default_type", .seq [lit "=", ref "type"]),
    ("constraint", .seq [oneOf ["extends", ":"], ref "type"]),
    ("construct_signature", .seq
      [ optional (lit "abstract"), lit "new", typeParameters,
        field "parameters" (ref "formal_parameters"),
        typeAnnotation ]),
    ("index_signature", .seq
      [ optional (.seq [field "sign" (optional (oneOf ["-", "+"])), lit "readonly"]),
        lit "[",
        .choice
          [ .seq
              [ field "name" (.choice [ref "identifier", reservedAs "identifier"]),
                lit ":",
                field "index_type" (ref "type") ],
            ref "mapped_type_clause" ],
        lit "]",
        field "type" (refs
          ["type_annotation", "omitting_type_annotation", "adding_type_annotation",
            "opting_type_annotation"]) ]),
    ("array_type", .seq [ref "primary_type", lit "[", lit "]"]),
    ("tuple_type", .seq
      [lit "[", commaSep (ref "_tuple_type_member"), optional (lit ","), lit "]"]),
    ("readonly_type", .seq [lit "readonly", ref "type"]),
    ("union_type", leftward (.seq [optional (ref "type"), lit "|", ref "type"])),
    ("intersection_type", leftward (.seq [optional (ref "type"), lit "&", ref "type"])),
    ("function_type", leftward (.seq
      [ typeParameters,
        field "parameters" (ref "formal_parameters"),
        lit "=>",
        field "return_type" (refs ["type", "asserts", "type_predicate"]) ])),
    ("_type_identifier", identifierAs "type_identifier") ]

/-- Which of two readings to take where the rules leave both open. -/
private def precedenceOrderings : List (List Rank) :=
  [ [.name "member", .name "template_call", .name "call", .rule "update_expression",
      .name "unary_void", .name "binary_exp", .name "binary_times", .name "binary_plus",
      .name "binary_shift", .name "binary_compare", .name "binary_relation",
      .name "binary_equality", .name "bitwise_and", .name "bitwise_xor", .name "bitwise_or",
      .name "logical_and", .name "logical_or", .name "ternary", .rule "sequence_expression",
      .rule "arrow_function"],
    [.name "assign", .rule "primary_expression"],
    [.name "member", .name "template_call", .name "new", .name "call", .rule "expression"],
    [.name "declare", .name "literal"],
    [.rule "primary_expression", .rule "statement_block", .name "object"],
    [.rule "meta_property", .rule "import"],
    [.rule "import_statement", .rule "import"],
    [.rule "export_statement", .rule "primary_expression"],
    [.rule "lexical_declaration", .rule "primary_expression"],
    [.name "call", .name "instantiation", .name "unary", .name "binary",
      .rule "await_expression", .rule "arrow_function"],
    [.name "extends", .name "instantiation"],
    [.rule "intersection_type", .rule "union_type", .rule "conditional_type",
      .rule "function_type", .name "binary", .rule "type_predicate", .rule "readonly_type"],
    [.rule "mapped_type_clause", .rule "primary_expression"],
    [.rule "accessibility_modifier", .rule "primary_expression"],
    [.name "unary_void", .rule "expression"],
    [.rule "extends_clause", .rule "primary_expression"],
    [.name "unary", .name "assign"],
    [.name "declare", .rule "expression"],
    [.rule "predefined_type", .rule "unary_expression"],
    [.rule "type", .rule "flow_maybe_type"],
    [.rule "tuple_type", .rule "array_type", .rule "pattern", .rule "type"],
    [.rule "readonly_type", .rule "pattern"],
    [.rule "readonly_type", .rule "primary_expression"],
    [.rule "type_query", .rule "subscript_expression", .rule "expression"],
    [.rule "type_query", .rule "_type_query_subscript_expression"],
    [.rule "nested_type_identifier", .rule "generic_type", .rule "primary_type",
      .rule "lookup_type", .rule "index_type_query", .rule "type"],
    [.rule "as_expression", .rule "satisfies_expression", .rule "primary_type"],
    [.rule "_type_query_member_expression", .rule "member_expression"],
    [.rule "member_expression", .rule "_type_query_member_expression_in_type_annotation"],
    [.rule "_type_query_member_expression", .rule "primary_expression"],
    [.rule "_type_query_subscript_expression", .rule "subscript_expression"],
    [.rule "_type_query_subscript_expression", .rule "primary_expression"],
    [.rule "_type_query_call_expression", .rule "primary_expression"],
    [.rule "_type_query_instantiation_expression", .rule "primary_expression"],
    [.rule "type_query", .rule "primary_expression"],
    [.rule "override_modifier", .rule "primary_expression"],
    [.rule "decorator_call_expression", .rule "decorator"],
    [.rule "literal_type", .rule "pattern"],
    [.rule "predefined_type", .rule "pattern"],
    [.rule "call_expression", .rule "_type_query_call_expression"],
    [.rule "call_expression", .rule "_type_query_call_expression_in_type_annotation"],
    [.rule "new_expression", .rule "primary_expression"],
    [.rule "meta_property", .rule "primary_expression"],
    [.rule "construct_signature", .rule "_property_name"] ]

/-- The grammar of TSX modules. -/
def definition : Definition :=
  { rules := statementRules ++ expressionRules ++ memberRules ++ typeRules
    word := some "identifier"
    externals := ["_automatic_semicolon", "_template_chars", "_ternary_qmark", "html_comment", "||",
      "escape_sequence", "regex_pattern", "jsx_text", "_function_signature_automatic_semicolon"]
    extras := ["comment", "html_comment"]
    inline := ["_expressions", "_semicolon", "_identifier", "_reserved_identifier",
      "_jsx_attribute", "_jsx_element_name", "_jsx_child", "_jsx_element", "_jsx_attribute_name",
      "_jsx_attribute_value", "_jsx_identifier", "_lhs_expression", "_type_identifier",
      "_jsx_start_opening_element"]
    supertypes := ["statement", "declaration", "expression", "primary_expression", "pattern",
      "type", "primary_type"]
    orderings := precedenceOrderings }

end IconSubset.Tsx
