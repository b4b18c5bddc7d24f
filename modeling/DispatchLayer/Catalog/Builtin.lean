/-!
# The built-in kinds

The public syntax-tree types of the `syn` library, major version 2, with all of its syntax enabled.
A catalog that names no kinds of its own stands for this list.
-/

namespace DispatchLayer.Catalog

/-- Version of the built-in list. -/
def builtinVersion : String := "syn-2.0"

/-- The built-in kinds, in the order of emission. -/
def builtinKinds : List String := [
  "Abi", "AngleBracketedGenericArguments", "Arm", "AssocConst", "AssocType", "Attribute",
  "BareFnArg", "BareVariadic", "BinOp", "Block", "BoundLifetimes", "ConstParam", "Constraint",
  "Expr", "ExprArray", "ExprAssign", "ExprAsync", "ExprAwait", "ExprBinary", "ExprBlock",
  "ExprBreak", "ExprCall", "ExprCast", "ExprClosure", "ExprConst", "ExprContinue", "ExprField",
  "ExprForLoop", "ExprGroup", "ExprIf", "ExprIndex", "ExprInfer", "ExprLet", "ExprLit",
  "ExprLoop", "ExprMacro", "ExprMatch", "ExprMethodCall", "ExprParen", "ExprPath", "ExprRange",
  "ExprReference", "ExprRepeat", "ExprReturn", "ExprStruct", "ExprTry", "ExprTryBlock",
  "ExprTuple", "ExprUnary", "ExprUnsafe", "ExprWhile", "ExprYield", "Field", "FieldPat",
  "FieldValue", "Fields", "FieldsNamed", "FieldsUnnamed", "File", "FnArg", "ForeignItem",
  "ForeignItemFn", "ForeignItemMacro", "ForeignItemStatic", "ForeignItemType", "GenericArgument",
  "GenericParam", "Generics", "Ident", "ImplItem", "ImplItemConst", "ImplItemFn", "ImplItemMacro",
  "ImplItemType", "Index", "Item", "ItemConst", "ItemEnum", "ItemExternCrate", "ItemFn",
  "ItemForeignMod", "ItemImpl", "ItemMacro", "ItemMod", "ItemStatic", "ItemStruct", "ItemTrait",
  "ItemTraitAlias", "ItemType", "ItemUnion", "ItemUse", "Label", "Lifetime", "LifetimeParam",
  "Lit", "LitBool", "LitByte", "LitByteStr", "LitChar", "LitFloat", "LitInt", "LitStr", "Local",
  "LocalInit", "Macro", "Member", "Meta", "MetaList", "MetaNameValue",
  "ParenthesizedGenericArguments", "Pat", "PatIdent", "PatOr", "PatParen", "PatReference",
  "PatRest", "PatSlice", "PatStruct", "PatTuple", "PatTupleStruct", "PatType", "PatWild", "Path",
  "PathArguments", "PathSegment", "QSelf", "Receiver", "ReturnType", "Signature", "Stmt",
  "StmtMacro", "TraitBound", "TraitItem", "TraitItemConst", "TraitItemFn", "TraitItemMacro",
  "TraitItemType", "Type", "TypeArray", "TypeBareFn", "TypeGroup", "TypeImplTrait", "TypeInfer",
  "TypeMacro", "TypeNever", "TypeParam", "TypeParamBound", "TypeParen", "TypePath", "TypePtr",
  "TypeReference", "TypeSlice", "TypeTraitObject", "TypeTuple", "UnOp", "UseGlob", "UseGroup",
  "UseName", "UsePath", "UseRename", "UseTree", "Variadic", "Variant", "VisRestricted",
  "Visibility", "WhereClause", "WherePredicate"]

end DispatchLayer.Catalog
