import ModuleScaffold.Backend
import ModuleScaffold.Template.Basic

/-!
# Services and their tests

The service of a module holds its data access.  Through the generated client it
creates and finds records; with a repository of entities it finds them.
-/

namespace ModuleScaffold.Template

/-- The class of the service. -/
def serviceClass : Piece :=
  .className "Service"

/-- The class of the entity. -/
def entityClass : Piece :=
  .className "Entity"

/-- The line that imports the service of the module. -/
def importingService : TemplateLine :=
  importing [serviceClass] ["./", .kebab, ".service"]

/-- The line that imports the entity of the module. -/
def importingEntity : TemplateLine :=
  importing [entityClass] ["./entities/", .kebab, ".entity"]

/-- The line that refuses an identifier without a record. -/
def refusingMissing : TemplateLine :=
  ["    if (!item) throw new NotFoundException(`", .pascal,
    " $\x7bid\x7d not found`);"]

/-- The service class. -/
def service : Backend → Template
  | .prisma =>
    [importing ["Injectable, NotFoundException"] ["@nestjs/common"],
      importing ["PrismaService"] ["../prisma/prisma.service"],
      importing [.pascal, ", Prisma"] ["@prisma/client"],
      [],
      ["@Injectable()"],
      ["export class ", serviceClass, " \x7b"],
      ["  constructor(private prisma: PrismaService) \x7b\x7d"],
      [],
      ["  async create(data: Prisma.", .pascal, "CreateInput): Promise<",
        .pascal, "> \x7b"],
      ["    return this.prisma.", .camel, ".create(\x7b data \x7d);"],
      ["  \x7d"],
      [],
      ["  async findAll(): Promise<", .pascal, "[]> \x7b"],
      ["    return this.prisma.", .camel,
        ".findMany(\x7b where: \x7b deletedAt: null \x7d \x7d);"],
      ["  \x7d"],
      [],
      ["  async findOne(id: string): Promise<", .pascal, "> \x7b"],
      ["    const item = await this.prisma.", .camel,
        ".findUnique(\x7b where: \x7b ", .camel,
        "Id: BigInt(id) \x7d \x7d);"],
      refusingMissing,
      ["    return item;"],
      ["  \x7d"],
      ["\x7d"]]
  | .typeorm =>
    [importing ["Injectable, NotFoundException"] ["@nestjs/common"],
      importing ["InjectRepository"] ["@nestjs/typeorm"],
      importing ["Repository"] ["typeorm"],
      importingEntity,
      [],
      ["@Injectable()"],
      ["export class ", serviceClass, " \x7b"],
      ["  constructor("],
      ["    @InjectRepository(", entityClass, ")"],
      ["    private readonly repository: Repository<", entityClass, ">,"],
      ["  ) \x7b\x7d"],
      [],
      ["  async findAll(): Promise<", entityClass, "[]> \x7b"],
      ["    return this.repository.find();"],
      ["  \x7d"],
      [],
      ["  async findOne(id: string): Promise<", entityClass, "> \x7b"],
      ["    const item = ",
        "await this.repository.findOneBy(\x7b id \x7d as any);"],
      refusingMissing,
      ["    return item;"],
      ["  \x7d"],
      ["\x7d"]]

/-- The tests of the service. -/
def serviceSpec : Backend → Template
  | .prisma =>
    List.flatten
      [[importing ["Test, TestingModule"] ["@nestjs/testing"],
        importingService,
        importing ["PrismaService"] ["../prisma/prisma.service"],
        []],
      definedTest [serviceClass] "service" serviceClass
        [["      providers: [", serviceClass,
          ", \x7b provide: PrismaService, useValue: \x7b\x7d \x7d],"]]]
  | .typeorm =>
    List.flatten
      [[importing ["Test, TestingModule"] ["@nestjs/testing"],
        importing ["getRepositoryToken"] ["@nestjs/typeorm"],
        importingService,
        importingEntity,
        []],
      definedTest [serviceClass, " (TypeORM)"] "service" serviceClass
        [["      providers: ["],
          ["        ", serviceClass, ","],
          ["        \x7b provide: getRepositoryToken(", entityClass,
            "), useValue: \x7b\x7d \x7d,"],
          ["      ],"]]]

end ModuleScaffold.Template
