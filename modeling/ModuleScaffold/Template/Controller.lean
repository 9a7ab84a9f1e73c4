import ModuleScaffold.Template.Service

/-!
# Controllers and their tests

The controller of a module answers requests on the route of the module by
calling its service.  With the generated client it also creates records, and
only for callers that carry a token.
-/

namespace ModuleScaffold.Template

/-- The class of the controller. -/
def controllerClass : Piece :=
  .className "Controller"

/-- The line that imports the controller of the module. -/
def importingController : TemplateLine :=
  importing [controllerClass] ["./", .kebab, ".controller"]

/-- The line that puts the controller on its route. -/
def controllerRoute : TemplateLine :=
  ["@Controller('", .kebab, "s')"]

/-- The line that gives the controller its service. -/
def controllerConstructor : TemplateLine :=
  ["  constructor(private readonly service: ", serviceClass, ") \x7b\x7d"]

/-- The methods that find all records and one. -/
def controllerQueries : Template :=
  [["  @Get()"],
    ["  findAll() \x7b"],
    ["    return this.service.findAll();"],
    ["  \x7d"],
    [],
    ["  @Get(':id')"],
    ["  findOne(@Param('id') id: string) \x7b"],
    ["    return this.service.findOne(id);"],
    ["  \x7d"]]

/-- The controller class. -/
def controller : Backend → Template
  | .prisma =>
    List.flatten
      [[importing ["Body, Controller, Get, Param, Post, UseGuards"]
          ["@nestjs/common"],
        importingService,
        importing ["JwtAuthGuard"] ["../auth/guards/jwt-auth.guard"],
        [],
        controllerRoute,
        ["@UseGuards(JwtAuthGuard)"],
        ["export class ", controllerClass, " \x7b"],
        controllerConstructor,
        [],
        ["  @Post()"],
        ["  create(@Body() data: any) \x7b"],
        ["    return this.service.create(data);"],
        ["  \x7d"],
        []],
      controllerQueries,
      [["\x7d"]]]
  | .typeorm =>
    List.flatten
      [[importing ["Controller, Get, Param"] ["@nestjs/common"],
        importingService,
        [],
        controllerRoute,
        ["export class ", controllerClass, " \x7b"],
        controllerConstructor,
        []],
      controllerQueries,
      [["\x7d"]]]

/-- The title of the tests of the controller. -/
def controllerSpecTitle : Backend → TemplateLine
  | .prisma => [controllerClass]
  | .typeorm => [controllerClass, " (TypeORM)"]

/-- The tests of the controller. -/
def controllerSpec (backend : Backend) : Template :=
  List.flatten
    [[importing ["Test, TestingModule"] ["@nestjs/testing"],
      importingController,
      importingService,
      []],
    definedTest (controllerSpecTitle backend) "controller" controllerClass
      [["      controllers: [", controllerClass, "],"],
        ["      providers: [\x7b provide: ", serviceClass,
          ", useValue: \x7b\x7d \x7d],"]]]

end ModuleScaffold.Template
